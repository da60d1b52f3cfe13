import InputBridge.Bus.Memory

/-!
# What an access does to a register file

A read of a `MemoryBus` is decided by three things at its address: the fault that
is pending there, the script, and the steady value. `read_eq` is the read written
by cases on them, and `answer_read`, `faultAt_read` and `scriptAt_read` say what
comes of each. Whether a write is taken is decided by the fault pending for writes of
its address alone (`answer_write`, `writeFaultAt_write`). Everything else is frame: no
access touches pins or strobes, and a write touches the level at its own address only,
and of that not the pins.
-/

namespace InputBridge

/-- The fault that is left of a pending one after one more access. -/
def Fault.used : Fault → Fault
  | .always => .always
  | .next count => .next (count - 1)

/-- Where no fault is pending, none is used up. -/
theorem Fault.used_of_none {fault : Fault} (h : fault = .next 0) : fault.used = fault := by
  rw [h]
  rfl

namespace MemoryBus

/-- The fault pending for reads of an address. -/
def faultAt (bus : MemoryBus) (address : Address) : Fault :=
  (bus.readFaults.get? address).getD (.next 0)

/-- The fault pending for writes to an address. -/
def writeFaultAt (bus : MemoryBus) (address : Address) : Fault :=
  (bus.writeFaults.get? address).getD (.next 0)

/-- The register file after one more successful read. -/
def counted (bus : MemoryBus) : MemoryBus := { bus with readCount := bus.readCount + 1 }

/-- The register file after one more read, answered from the script at `address`. -/
def scripted (bus : MemoryBus) (address : Address) (rest : List UInt16) : MemoryBus :=
  { bus.counted with scripts := bus.scripts.put address rest }

/-- Bringing a register file up does not change it. -/
theorem connect_eq (bus : MemoryBus) : bus.connect.2 = bus := by
  unfold connect
  split <;> rfl

/-! ## Reads -/

theorem read_eq (address : Address) (width : Width) (bus : MemoryBus) :
    bus.read address width =
      match bus.faultAt address, bus.scriptAt address with
      | .always, _ => (.error (.readFailed address width faultReason), bus)
      | .next (count + 1), _ =>
        (.error (.readFailed address width faultReason), bus.failReads address (.next count))
      | .next 0, value :: rest => (.ok (value &&& width.mask), bus.scripted address rest)
      | .next 0, [] => (.ok (bus.steady address &&& width.mask), bus.counted) := by
  unfold read takeFault faultAt
  cases bus.readFaults.get? address with
  | none => cases hscript : bus.scriptAt address <;> rfl
  | some fault =>
    cases fault with
    | always => rfl
    | next count =>
      cases count with
      | zero => cases hscript : bus.scriptAt address <;> rfl
      | succ count => rfl

section Views

variable {bus : MemoryBus} {address other : Address} {width : Width} {value : UInt16}

/-- The answer: a failure if a fault is pending, and otherwise the next value. -/
theorem answer_read :
    (bus.read address width).1 =
      if bus.faultAt address = .next 0 then
        .ok ((bus.scriptAt address).headD (bus.steady address) &&& width.mask)
      else .error (.readFailed address width faultReason) := by
  rw [read_eq]
  split
  next hfault => rw [hfault, if_neg (by decide)]
  next hfault => rw [hfault, if_neg (by simp)]
  next hfault hscript => rw [hfault, if_pos rfl, hscript, List.headD_cons]
  next hfault hscript => rw [hfault, if_pos rfl, hscript, List.headD_nil]

theorem faultAt_failReads (bus : MemoryBus) (address other : Address) (fault : Fault) :
    (bus.failReads address fault).faultAt other =
      if other = address then fault else bus.faultAt other := by
  unfold faultAt failReads
  rw [Table.get?_put]
  split <;> rfl

/-- A pending fault is used up by one, and no other is. -/
theorem faultAt_read :
    (bus.read address width).2.faultAt other =
      if other = address then (bus.faultAt address).used else bus.faultAt other := by
  have hsame : ∀ fault : Fault, fault.used = fault → bus.faultAt address = fault →
      bus.faultAt other =
        if other = address then (bus.faultAt address).used else bus.faultAt other := by
    intro fault hused hfault
    split
    next h => rw [h, hfault, hused]
    next => rfl
  rw [read_eq]
  split
  next hfault => exact hsame _ rfl hfault
  next count _ hfault => rw [faultAt_failReads, hfault]; rfl
  next hfault _ => exact hsame _ rfl hfault
  next hfault _ => exact hsame _ rfl hfault

theorem scriptAt_scripted (bus : MemoryBus) (address other : Address) (rest : List UInt16) :
    (bus.scripted address rest).scriptAt other =
      if other = address then rest else bus.scriptAt other := by
  unfold scriptAt scripted
  rw [Table.get?_put]
  split <;> rfl

/-- A read that does not fail takes one value from the script of its address. -/
theorem scriptAt_read :
    (bus.read address width).2.scriptAt other =
      if other = address ∧ bus.faultAt address = .next 0 then (bus.scriptAt address).tail
      else bus.scriptAt other := by
  rw [read_eq]
  split
  next hfault => rw [hfault, if_neg (by simp)]
  next hfault => rw [hfault, if_neg (by simp)]; rfl
  next hfault hscript =>
    rw [scriptAt_scripted, hfault, hscript, List.tail_cons]
    simp
  next hfault hscript =>
    show bus.scriptAt other = _
    split
    next h => rw [h.1, hscript, List.tail_nil]
    next => rfl

theorem steady_eq_level (h : bus.strobes.get? address = none) :
    bus.steady address = bus.level address := by
  unfold steady
  rw [h]

theorem steady_of_strobed {strobed : Strobed} (h : bus.strobes.get? address = some strobed) :
    bus.steady address =
      (strobed.values.get? (bus.selector strobed.select)).getD strobed.otherwise := by
  unfold steady
  rw [h]

theorem level_read : (bus.read address width).2.level other = bus.level other := by
  rw [read_eq]
  split <;> rfl

theorem pins_read : (bus.read address width).2.pins other = bus.pins other := by
  rw [read_eq]
  split <;> rfl

theorem writeFaultAt_read :
    (bus.read address width).2.writeFaultAt other = bus.writeFaultAt other := by
  rw [read_eq]
  split <;> rfl

theorem strobes_read : (bus.read address width).2.strobes = bus.strobes := by
  rw [read_eq]
  split <;> rfl

/-! ## Writes -/

/-- The answer to a write: a failure if a fault is pending. -/
theorem answer_write :
    (bus.write address width value).1 =
      if bus.writeFaultAt address = .next 0 then .ok ()
      else .error (.writeFailed address width value faultReason) := by
  unfold write takeFault writeFaultAt
  cases bus.writeFaults.get? address with
  | none => rfl
  | some fault =>
    cases fault with
    | always => rfl
    | next count => cases count <;> rfl

theorem writeFaultAt_failWrites (bus : MemoryBus) (address other : Address) (fault : Fault) :
    (bus.failWrites address fault).writeFaultAt other =
      if other = address then fault else bus.writeFaultAt other := by
  unfold writeFaultAt failWrites
  rw [Table.get?_put]
  split <;> rfl

/-- A pending fault is used up by one, and no other is. -/
theorem writeFaultAt_write :
    (bus.write address width value).2.writeFaultAt other =
      if other = address then (bus.writeFaultAt address).used else bus.writeFaultAt other := by
  unfold write takeFault writeFaultAt
  by_cases h : other = address
  · subst h
    rw [if_pos rfl]
    rcases hfault : bus.writeFaults.get? other with _ | (_ | count) | _
    · simp [hfault, Fault.used]
    · simp [hfault, Fault.used]
    · simp [Fault.used]
    · simp [hfault, Fault.used]
  · rw [if_neg h]
    rcases bus.writeFaults.get? address with _ | (_ | count) | _
    · rfl
    · rfl
    · exact congrArg (Option.getD · _) (Table.get?_put_ne _ _ h)
    · rfl

theorem pins_write : (bus.write address width value).2.pins other = bus.pins other := by
  unfold write
  split <;> rfl

theorem strobes_write : (bus.write address width value).2.strobes = bus.strobes := by
  unfold write
  split <;> rfl

theorem faultAt_write : (bus.write address width value).2.faultAt other = bus.faultAt other := by
  unfold write
  split <;> rfl

theorem scriptAt_write :
    (bus.write address width value).2.scriptAt other = bus.scriptAt other := by
  unfold write
  split <;> rfl

theorem level_write_ne (h : other ≠ address) :
    (bus.write address width value).2.level other = bus.level other := by
  unfold write
  split
  · rfl
  · exact congrArg (Option.getD · 0) (Table.get?_put_ne _ _ h)

/-- What a write merges into a level does not show in the pins. -/
theorem merged_and_mask {level written pins mask : UInt16} (h : pins &&& mask = mask) :
    ((level &&& pins) ||| (written &&& ~~~pins)) &&& mask = level &&& mask := by
  apply UInt16.eq_of_toBitVec_eq
  apply BitVec.eq_of_getLsbD_eq
  intro i hi
  have hbit := congrArg (fun word : UInt16 => word.toBitVec.getLsbD i) h
  simp only [UInt16.toBitVec_and, UInt16.toBitVec_or, UInt16.toBitVec_not, BitVec.getLsbD_and,
    BitVec.getLsbD_or, BitVec.getLsbD_not, hi, decide_true, Bool.true_and] at hbit ⊢
  revert hbit
  cases pins.toBitVec.getLsbD i <;> cases mask.toBitVec.getLsbD i <;> simp

theorem level_write_pins {mask : UInt16} (h : bus.pins address &&& mask = mask) :
    (bus.write address width value).2.level address &&& mask = bus.level address &&& mask := by
  unfold write
  split
  · rfl
  · simp only [level, Table.get?_put_self, Option.getD_some]
    exact merged_and_mask h

end Views

end MemoryBus

end InputBridge
