import InputBridge.Proofs.Bus.Frame

/-!
# Calm register files

A register file is calm if nothing is pending on it, no fault and no script: then every
access succeeds, a read gives the steady value (`Clear.read_eq`), and it stays calm. An
address alone may be clear in that sense, or clear for one kind of access only
(`read_eq_steady`, `write_eq_written`); in general `read_eq` and `write_eq` say by what is
pending what an access does. An access that succeeds without a script leaves everything that
is pending as it is (`SamePending`).

What a steady value depends on is the state of the registers: the levels, the pins, the
strobes, and the words last written. `SameOutside others` says that two register files
have the same state except at some registers. Writes of the same word keep it
(`SameOutside.written`), a write to one of the others does not matter
(`SameOutside.written_other`), and of two words written to a register only the later one
shows (`written_written`).
-/

namespace InputBridge

/-- A word is not cut. -/
theorem Width.and_mask_word (word : UInt16) : word &&& Width.word.mask = word :=
  UInt16.and_neg_one

namespace MemoryBus

/-- Nothing is pending: no access fails, and no read is scripted. -/
structure Calm (bus : MemoryBus) : Prop where
  reads : ∀ address, bus.faultAt address = .next 0
  writes : ∀ address, bus.writeFaultAt address = .next 0
  scripts : ∀ address, bus.scriptAt address = []

/-- Nothing is pending at one address. -/
structure Clear (bus : MemoryBus) (address : Address) : Prop where
  reads : bus.faultAt address = .next 0
  writes : bus.writeFaultAt address = .next 0
  script : bus.scriptAt address = []

theorem Calm.clear {bus : MemoryBus} (h : bus.Calm) (address : Address) : bus.Clear address :=
  ⟨h.reads address, h.writes address, h.scripts address⟩

/-- The register file after a successful write. -/
def written (bus : MemoryBus) (address : Address) (width : Width) (value : UInt16) : MemoryBus :=
  { bus with
    levels := bus.levels.put address ((bus.level address &&& bus.pins address) |||
      (value &&& width.mask &&& ~~~bus.pins address))
    latches := bus.latches.put address (value &&& width.mask)
    writes := bus.writes.push ⟨address, width, value &&& width.mask⟩ }

theorem write_eq (address : Address) (width : Width) (value : UInt16) (bus : MemoryBus) :
    bus.write address width value =
      match bus.writeFaultAt address with
      | .always => (.error (.writeFailed address width value faultReason), bus)
      | .next (count + 1) =>
        (.error (.writeFailed address width value faultReason),
          bus.failWrites address (.next count))
      | .next 0 => (.ok (), bus.written address width value) := by
  unfold write takeFault writeFaultAt
  rcases bus.writeFaults.get? address with _ | (_ | count) | _ <;> rfl

/-- Two register files on which the same is pending. -/
structure SamePending (bus bus' : MemoryBus) : Prop where
  reads : ∀ address, bus.faultAt address = bus'.faultAt address
  writes : ∀ address, bus.writeFaultAt address = bus'.writeFaultAt address
  scripts : ∀ address, bus.scriptAt address = bus'.scriptAt address

section Calm

variable {bus bus' : MemoryBus} {address other : Address} {width : Width} {value : UInt16}

theorem SamePending.refl (bus : MemoryBus) : SamePending bus bus :=
  ⟨fun _ => rfl, fun _ => rfl, fun _ => rfl⟩

theorem SamePending.counted (h : SamePending bus bus') : SamePending bus.counted bus' :=
  ⟨h.reads, h.writes, h.scripts⟩

theorem SamePending.written (h : SamePending bus bus') :
    SamePending (bus.written address width value) bus' := ⟨h.reads, h.writes, h.scripts⟩

theorem SamePending.calm (h : SamePending bus bus') (hcalm : bus'.Calm) : bus.Calm where
  reads a := (h.reads a).trans (hcalm.reads a)
  writes a := (h.writes a).trans (hcalm.writes a)
  scripts a := (h.scripts a).trans (hcalm.scripts a)

/-- A read that meets neither a fault nor a script gives the steady value. -/
theorem read_eq_steady (hfault : bus.faultAt address = .next 0)
    (hscript : bus.scriptAt address = []) (width : Width) :
    RegisterBus.read address width bus =
      (.ok (bus.steady address &&& width.mask), bus.counted) := by
  show bus.read address width = _
  rw [read_eq, hfault, hscript]

/-- A write that meets no fault is taken. -/
theorem write_eq_written (hfault : bus.writeFaultAt address = .next 0) (width : Width)
    (value : UInt16) :
    RegisterBus.write address width value bus = (.ok (), bus.written address width value) := by
  show bus.write address width value = _
  rw [write_eq, hfault]

theorem Clear.read_eq (h : bus.Clear address) (width : Width) :
    RegisterBus.read address width bus =
      (.ok (bus.steady address &&& width.mask), bus.counted) :=
  read_eq_steady h.reads h.script width

theorem Clear.readWord_eq (h : bus.Clear address) :
    RegisterBus.read address .word bus = (.ok (bus.steady address), bus.counted) := by
  rw [h.read_eq, Width.and_mask_word]

theorem Clear.write_eq (h : bus.Clear address) (width : Width) (value : UInt16) :
    RegisterBus.write address width value bus = (.ok (), bus.written address width value) :=
  write_eq_written h.writes width value

theorem Clear.counted (h : bus.Clear address) : bus.counted.Clear address :=
  ⟨h.reads, h.writes, h.script⟩

theorem Clear.written (h : bus.Clear address) : (bus.written other width value).Clear address :=
  ⟨h.reads, h.writes, h.script⟩

theorem Calm.counted (h : bus.Calm) : bus.counted.Calm := ⟨h.reads, h.writes, h.scripts⟩

theorem Calm.written (h : bus.Calm) : (bus.written address width value).Calm :=
  ⟨h.reads, h.writes, h.scripts⟩

end Calm

/-! ## The state of the registers -/

/-- Two register files that are in the same state, except at some registers. -/
structure SameOutside (others : List Address) (bus bus' : MemoryBus) : Prop where
  strobes : bus.strobes = bus'.strobes
  pins : ∀ address, bus.pins address = bus'.pins address
  levels : ∀ address, address ∉ others → bus.level address = bus'.level address
  latches : ∀ address, address ∉ others →
    bus.latches.get? address = bus'.latches.get? address

section State

variable {others : List Address} {bus bus' bus'' : MemoryBus} {address : Address} {width : Width}
  {value : UInt16}

theorem SameOutside.refl (others : List Address) (bus : MemoryBus) : SameOutside others bus bus :=
  ⟨rfl, fun _ => rfl, fun _ _ => rfl, fun _ _ => rfl⟩

theorem SameOutside.trans (h : SameOutside others bus bus') (h' : SameOutside others bus' bus'') :
    SameOutside others bus bus'' where
  strobes := h.strobes.trans h'.strobes
  pins a := (h.pins a).trans (h'.pins a)
  levels a ha := (h.levels a ha).trans (h'.levels a ha)
  latches a ha := (h.latches a ha).trans (h'.latches a ha)

theorem SameOutside.mono {more : List Address} (h : SameOutside others bus bus')
    (hmore : ∀ address ∈ others, address ∈ more) : SameOutside more bus bus' :=
  { h with
    levels := fun a ha => h.levels a fun hin => ha (hmore a hin)
    latches := fun a ha => h.latches a fun hin => ha (hmore a hin) }

/-- Counting a read changes no register. -/
theorem SameOutside.counted (h : SameOutside others bus bus') :
    SameOutside others bus.counted bus' := ⟨h.strobes, h.pins, h.levels, h.latches⟩

theorem level_written (bus : MemoryBus) (address : Address) (width : Width) (value : UInt16)
    (other : Address) : (bus.written address width value).level other =
      if other = address then (bus.level address &&& bus.pins address) |||
        (value &&& width.mask &&& ~~~bus.pins address) else bus.level other := by
  unfold written level
  rw [Table.get?_put]
  split <;> rfl

theorem latches_written (bus : MemoryBus) (address : Address) (width : Width) (value : UInt16)
    (other : Address) : (bus.written address width value).latches.get? other =
      if other = address then some (value &&& width.mask) else bus.latches.get? other :=
  Table.get?_put ..

/-- The same write keeps the same state. -/
theorem SameOutside.written (h : SameOutside others bus bus') (address : Address) (width : Width)
    (value : UInt16) :
    SameOutside others (bus.written address width value) (bus'.written address width value) where
  strobes := h.strobes
  pins := h.pins
  levels a ha := by
    rw [level_written, level_written]
    split
    next heq => rw [h.levels address (heq ▸ ha), h.pins address]
    next => exact h.levels a ha
  latches a ha := by
    rw [latches_written, latches_written, h.latches a ha]

/-- A write to one of the others changes the state there only. -/
theorem SameOutside.written_other (h : SameOutside others bus bus') (hin : address ∈ others) :
    SameOutside others (bus.written address width value) bus' := by
  have hne : ∀ other, other ∉ others → other ≠ address := fun other hout heq => hout (heq ▸ hin)
  refine ⟨h.strobes, h.pins, fun a ha => ?_, fun a ha => ?_⟩
  · rw [level_written, if_neg (hne a ha)]
    exact h.levels a ha
  · rw [latches_written, if_neg (hne a ha)]
    exact h.latches a ha

/-- Of two words written to a register, the later one shows. -/
theorem written_written (bus : MemoryBus) (address : Address) (width : Width)
    (value later : UInt16) :
    SameOutside [] ((bus.written address width value).written address width later)
      (bus.written address width later) := by
  refine ⟨rfl, fun _ => rfl, fun a _ => ?_, fun a _ => ?_⟩
  · rw [level_written, level_written bus address width later a]
    split
    next =>
      -- The pins keep the level from before both writes, the other bits are the later ones.
      rw [level_written, if_pos rfl]
      show (((_ ||| _) &&& bus.pins address) ||| _) = _
      rw [merged_and_mask UInt16.and_self]
      rfl
    next hne => rw [level_written, if_neg hne]
  · rw [latches_written, latches_written, latches_written]
    split <;> rfl

/-- Register files in the same state read the same. -/
theorem SameOutside.steady (h : SameOutside others bus bus') (hout : address ∉ others)
    (hselect : ∀ strobed, bus.strobes.get? address = some strobed → strobed.select ∉ others) :
    bus.steady address = bus'.steady address := by
  unfold MemoryBus.steady selector
  rw [← h.strobes]
  cases hstrobed : bus.strobes.get? address with
  | none => exact h.levels address hout
  | some strobed =>
    have hselect' := hselect strobed hstrobed
    dsimp only
    rw [h.latches _ hselect', h.levels _ hselect']

/-- Register files in the same state everywhere read the same everywhere. -/
theorem SameOutside.steady_eq (h : SameOutside [] bus bus') (address : Address) :
    bus.steady address = bus'.steady address :=
  h.steady List.not_mem_nil fun _ _ => List.not_mem_nil

end State

end MemoryBus

end InputBridge
