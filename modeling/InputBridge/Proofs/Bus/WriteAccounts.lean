import InputBridge.Proofs.Bus.Operations

/-!
# Writes to a register file, accounted for

A write that succeeds shows in three places: the level of its register, the word that
selects what is strobed through it, and the log. This module says what each of them is
after any run of operations.

* The log is the writes that succeeded (`writes_after`).
* The selector is the last word in the log for its register, and the level only where there
  is none (`selector_after`). A register that is set later does not change that.
* A level is followed one line at a time. What happens to the register of an address is a
  list of touches, and each line goes the way these send it: a pin follows what is set, any
  other line what is set or written (`lineAt_after`). So the pins of a register change with
  what is set and with nothing else (`level_after_pins`).

`writes_accounted` puts them together. Which writes succeed is decided by the faults alone: a
fault wears off with the writes to its address (`writeFaultAt_after`), and a write that meets
none succeeds (`writes_succeed`).
-/

namespace InputBridge

/-! ## Lines of a register -/

/-- What happens to the register of one address. -/
inductive Touch where
  /-- It is set from outside. -/
  | set (value : UInt16)
  /-- Its pins are chosen. -/
  | pins (mask : UInt16)
  /-- A write succeeds. -/
  | write (value : UInt16)
  deriving DecidableEq

/-- One line of a register. -/
structure Line where
  high : Bool := false
  /-- Is it a pin? -/
  pin : Bool := false
  deriving DecidableEq

/-- Line number `index` of a register after its register was touched: a write does not move
a pin. -/
def Line.touched (index : Nat) (line : Line) : Touch → Line
  | .set value => { line with high := value.toBitVec.getLsbD index }
  | .pins mask => { line with pin := mask.toBitVec.getLsbD index }
  | .write value => if line.pin then line else { line with high := value.toBitVec.getLsbD index }

/-! ## What an operation has to do with writes -/

namespace Operation

/-- The value that an operation sets the register of `address` to. -/
def sets? (address : Address) : Operation → Option UInt16
  | .setLevel other value => if other = address then some value else none
  | _ => none

/-- Does it choose the pins of `address`? -/
def choosesPins (address : Address) : Operation → Bool
  | .setPins other _ => other = address
  | _ => false

/-- Is it a write to `address`? -/
def isWriteTo (address : Address) : Operation → Bool
  | .write other _ _ => other = address
  | _ => false

/-- Does it replace or clear the fault for writes to `address`? -/
def resetsWrites (address : Address) : Operation → Bool
  | .failWrites other _ => other = address
  | .clearFaults => true
  | _ => false

end Operation

namespace Deed

/-- The entry that a deed makes in the log, if it is a write that succeeded. -/
def wrote? (deed : Deed) : Option Written :=
  match deed.operation with
  | .write address width value =>
    if (deed.before.write address width value).1.isOk = true then
      some ⟨address, width, value &&& width.mask⟩
    else none
  | _ => none

/-- How a deed touches the register of `address`. -/
def touch? (address : Address) (deed : Deed) : Option Touch :=
  match deed.operation with
  | .setLevel other value => if other = address then some (.set value) else none
  | .setPins other mask => if other = address then some (.pins mask) else none
  | .write other _ _ =>
    if other = address then deed.wrote?.map fun written => .write written.value else none
  | _ => none

end Deed

/-- The word that was written to `address` last, going by a log. -/
def lastWritten (address : Address) (log : List Written) : Option UInt16 :=
  (log.filter (·.address = address)).getLast?.map (·.value)

theorem lastWritten_concat (address : Address) (log : List Written) (written : Written) :
    lastWritten address (log ++ [written]) =
      if written.address = address then some written.value else lastWritten address log := by
  unfold lastWritten
  rw [List.filter_append]
  by_cases h : written.address = address
  · have hlast : [written].filter (·.address = address) = [written] := by simp [h]
    rw [if_pos h, hlast, List.getLast?_concat]
    rfl
  · have hlast : [written].filter (·.address = address) = [] := by simp [h]
    rw [if_neg h, hlast, List.append_nil]

namespace MemoryBus

section Steps

variable (bus : MemoryBus) (address : Address)

/-- Line number `index` of the register of an address. -/
def lineAt (index : Nat) : Line :=
  ⟨(bus.level address).toBitVec.getLsbD index, (bus.pins address).toBitVec.getLsbD index⟩

theorem isOk_write_iff {width : Width} {value : UInt16} :
    (bus.write address width value).1.isOk = true ↔ bus.writeFaultAt address = .next 0 := by
  rw [answer_write]
  split
  next h => exact ⟨fun _ => h, fun _ => rfl⟩
  next h => exact ⟨fun hok => (nomatch hok), fun hnone => absurd hnone h⟩

/-- A write either succeeds, or changes nothing but the fault. -/
theorem write_cases (width : Width) (value : UInt16) :
    ((⟨bus, .write address width value⟩ : Deed).wrote? =
        some ⟨address, width, value &&& width.mask⟩ ∧
      (bus.write address width value).2 = bus.written address width value) ∨
    ((⟨bus, .write address width value⟩ : Deed).wrote? = none ∧
      (bus.write address width value).1 =
        .error (.writeFailed address width value faultReason) ∧
      ∃ writeFaults, (bus.write address width value).2 = { bus with writeFaults }) := by
  unfold Deed.wrote?
  dsimp only
  by_cases hfault : bus.writeFaultAt address = .next 0
  · rw [if_pos ((bus.isOk_write_iff address).mpr hfault), write_eq, hfault]
    exact Or.inl ⟨rfl, rfl⟩
  · rw [if_neg fun hok => hfault ((bus.isOk_write_iff address).mp hok), answer_write,
      if_neg hfault, write_eq]
    refine Or.inr ⟨rfl, rfl, ?_⟩
    split
    next => exact ⟨bus.writeFaults, rfl⟩
    next count _ => exact ⟨bus.writeFaults.put address (.next count), rfl⟩
    next hnone => exact absurd hnone hfault

/-! ## The log and the selectors -/

theorem writes_apply (operation : Operation) :
    (bus.apply operation).writes.toList =
      bus.writes.toList ++ (⟨bus, operation⟩ : Deed).wrote?.toList := by
  have hkeeps : (⟨bus, operation⟩ : Deed).wrote? = none →
      (bus.apply operation).writes = bus.writes →
      (bus.apply operation).writes.toList =
        bus.writes.toList ++ (⟨bus, operation⟩ : Deed).wrote?.toList := by
    intro hwrote hsame
    rw [hwrote, hsame]
    exact (List.append_nil _).symm
  cases operation with
  | write other width value =>
    show (bus.write other width value).2.writes.toList = _
    rcases bus.write_cases other width value with ⟨hwrote, hleft⟩ | ⟨hwrote, _, faults, hleft⟩
    · rw [hwrote, hleft]
      exact Array.toList_push
    · rw [hwrote, hleft]
      exact (List.append_nil _).symm
  | read other width =>
    refine hkeeps rfl ?_
    show (bus.read other width).2.writes = _
    rw [read_eq]
    split <;> rfl
  | setStrobed other selector value =>
    obtain ⟨strobes, heq⟩ := bus.apply_setStrobed other selector value
    refine hkeeps rfl ?_
    rw [heq]
  | connect =>
    refine hkeeps rfl ?_
    rw [apply_connect]
  | setLevel | setPins | script | strobe | failReads | failWrites | failConnect | clearFaults =>
    exact hkeeps rfl rfl

/-- The log holds the writes that succeeded, oldest first. -/
theorem writes_after (operations : List Operation) :
    (bus.after operations).writes.toList =
      bus.writes.toList ++ (bus.deeds operations).filterMap Deed.wrote? := by
  induction operations generalizing bus with
  | nil => exact (List.append_nil _).symm
  | cons operation rest ih =>
    show ((bus.apply operation).after rest).writes.toList = _
    rw [ih, writes_apply, filterMap_deeds_cons, List.append_assoc]

/-- The latches of a register file hold the last words of its log. -/
def Latched (bus : MemoryBus) : Prop :=
  ∀ address, bus.latches.get? address = lastWritten address bus.writes.toList

theorem Latched.apply {bus : MemoryBus} (h : bus.Latched) (operation : Operation) :
    (bus.apply operation).Latched := by
  cases operation with
  | write other width value =>
    intro address
    show (bus.write other width value).2.latches.get? address =
      lastWritten address (bus.write other width value).2.writes.toList
    rcases bus.write_cases other width value with ⟨_, hleft⟩ | ⟨_, _, faults, hleft⟩
    · rw [hleft, latches_written]
      show _ = lastWritten address (bus.writes.push _).toList
      rw [Array.toList_push, lastWritten_concat, ← h address]
      by_cases heq : address = other
      · rw [if_pos heq, if_pos heq.symm]
      · rw [if_neg heq, if_neg (Ne.symm heq)]
    · rw [hleft]
      exact h address
  | read other width =>
    intro address
    show (bus.read other width).2.latches.get? address =
      lastWritten address (bus.read other width).2.writes.toList
    rw [read_eq]
    split <;> exact h address
  | setStrobed other selector value =>
    obtain ⟨strobes, heq⟩ := bus.apply_setStrobed other selector value
    intro address
    rw [heq]
    exact h address
  | connect =>
    rw [apply_connect]
    exact h
  | setLevel | setPins | script | strobe | failReads | failWrites | failConnect | clearFaults =>
    exact h

/-- What selects is the last word in the log, and the level only where there is none. -/
theorem selector_after (operations : List Operation) :
    let bus := ({} : MemoryBus).after operations
    bus.selector address =
      (lastWritten address bus.writes.toList).getD (bus.level address) := by
  intro bus
  have hnew : ({} : MemoryBus).Latched := fun _ => rfl
  have hlatched : bus.Latched := after_inv (fun _ operation h => h.apply operation) operations hnew
  unfold selector
  rw [hlatched address]

/-! ## The lines -/

/-- A write moves the lines that are no pins, and those only. -/
theorem getLsbD_merged (level value mask : UInt16) (index : Nat) :
    ((level &&& mask) ||| (value &&& ~~~mask)).toBitVec.getLsbD index =
      if mask.toBitVec.getLsbD index then level.toBitVec.getLsbD index
      else value.toBitVec.getLsbD index := by
  simp only [UInt16.toBitVec_and, UInt16.toBitVec_or, UInt16.toBitVec_not, BitVec.getLsbD_and,
    BitVec.getLsbD_or, BitVec.getLsbD_not]
  by_cases hindex : index < 16
  · cases mask.toBitVec.getLsbD index <;> simp [hindex]
  · have hnone : ∀ word : BitVec 16, word.getLsbD index = false :=
      fun word => BitVec.getLsbD_of_ge word index (Nat.le_of_not_lt hindex)
    simp [hnone]

/-- A write that succeeds touches the lines of its register. -/
theorem lineAt_written (width : Width) (value : UInt16) (index : Nat) :
    (bus.written address width value).lineAt address index =
      (bus.lineAt address index).touched index (.write (value &&& width.mask)) := by
  unfold lineAt
  rw [level_written, if_pos rfl, getLsbD_merged]
  show (⟨_, (bus.pins address).toBitVec.getLsbD index⟩ : Line) =
    Line.touched index ⟨_, (bus.pins address).toBitVec.getLsbD index⟩
      (.write (value &&& width.mask))
  unfold Line.touched
  dsimp only
  cases (bus.pins address).toBitVec.getLsbD index <;> rfl

theorem lineAt_apply (operation : Operation) (index : Nat) :
    (bus.apply operation).lineAt address index =
      ((⟨bus, operation⟩ : Deed).touch? address).toList.foldl (Line.touched index)
        (bus.lineAt address index) := by
  cases operation with
  | setLevel other value =>
    show (⟨((bus.setLevel other value).level address).toBitVec.getLsbD index, _⟩ : Line) = _
    unfold Deed.touch? setLevel level
    dsimp only
    rw [Table.get?_put]
    by_cases h : other = address
    · rw [if_pos h, if_pos h.symm]
      rfl
    · rw [if_neg h, if_neg (Ne.symm h)]
      rfl
  | setPins other mask =>
    show (⟨_, ((bus.setPins other mask).pins address).toBitVec.getLsbD index⟩ : Line) = _
    unfold Deed.touch? setPins pins
    dsimp only
    rw [Table.get?_put]
    by_cases h : other = address
    · rw [if_pos h, if_pos h.symm]
      rfl
    · rw [if_neg h, if_neg (Ne.symm h)]
      rfl
  | write other width value =>
    show ((bus.write other width value).2).lineAt address index = _
    unfold Deed.touch?
    dsimp only
    rcases bus.write_cases other width value with ⟨hwrote, hleft⟩ | ⟨hwrote, _, faults, hleft⟩
    · rw [hwrote, hleft]
      by_cases h : other = address
      · subst h
        rw [if_pos rfl]
        exact bus.lineAt_written other width value index
      · rw [if_neg h]
        unfold lineAt
        rw [level_written, if_neg (Ne.symm h)]
        rfl
    · rw [hwrote, hleft]
      by_cases h : other = address
      · rw [if_pos h]
        rfl
      · rw [if_neg h]
        rfl
  | read other width =>
    show ((bus.read other width).2).lineAt address index = _
    rw [read_eq]
    split <;> rfl
  | setStrobed other selector value =>
    obtain ⟨strobes, heq⟩ := bus.apply_setStrobed other selector value
    rw [heq]
    rfl
  | connect =>
    rw [apply_connect]
    rfl
  | script | strobe | failReads | failWrites | failConnect | clearFaults => rfl

/-- Every line goes where the touches of its own register send it. -/
theorem lineAt_after (operations : List Operation) (index : Nat) :
    (bus.after operations).lineAt address index =
      ((bus.deeds operations).filterMap (Deed.touch? address)).foldl (Line.touched index)
        (bus.lineAt address index) := by
  induction operations generalizing bus with
  | nil => rfl
  | cons operation rest ih =>
    show ((bus.apply operation).after rest).lineAt address index = _
    rw [ih, lineAt_apply, filterMap_deeds_cons, List.foldl_append]

/-! ## Pins -/

/-- An operation that does not choose the pins leaves them and what stands on them, unless
it sets the register. -/
theorem level_apply_pins {mask : UInt16} (hpins : bus.pins address = mask) {operation : Operation}
    (h : operation.choosesPins address = false) :
    (bus.apply operation).pins address = mask ∧
      (bus.apply operation).level address &&& mask =
        (operation.sets? address).getD (bus.level address) &&& mask := by
  cases operation with
  | setLevel other value =>
    refine ⟨hpins, ?_⟩
    show (bus.setLevel other value).level address &&& mask = _
    unfold Operation.sets? setLevel level
    dsimp only
    rw [Table.get?_put]
    by_cases heq : other = address
    · rw [if_pos heq, if_pos heq.symm]
      rfl
    · rw [if_neg heq, if_neg (Ne.symm heq)]
      rfl
  | setPins other more =>
    have hne : address ≠ other := fun heq => of_decide_eq_false h heq.symm
    refine ⟨?_, rfl⟩
    show (bus.setPins other more).pins address = mask
    rw [← hpins]
    exact congrArg (Option.getD · 0) (Table.get?_put_ne _ _ hne)
  | write other width value =>
    refine ⟨pins_write.trans hpins, ?_⟩
    show (bus.write other width value).2.level address &&& mask = bus.level address &&& mask
    by_cases heq : address = other
    · subst heq
      exact level_write_pins (hpins ▸ UInt16.and_self)
    · rw [level_write_ne heq]
  | read other width =>
    exact ⟨pins_read.trans hpins, congrArg (· &&& mask) level_read⟩
  | setStrobed other selector value =>
    obtain ⟨strobes, heq⟩ := bus.apply_setStrobed other selector value
    rw [heq]
    exact ⟨hpins, rfl⟩
  | connect =>
    rw [apply_connect]
    exact ⟨hpins, rfl⟩
  | script | strobe | failReads | failWrites | failConnect | clearFaults => exact ⟨hpins, rfl⟩

/-- As long as the pins of a register stay the same ones, what stands on them is what was
last set. -/
theorem level_after_pins {mask : UInt16} (hpins : bus.pins address = mask)
    {operations : List Operation}
    (h : ∀ operation ∈ operations, operation.choosesPins address = false) :
    (bus.after operations).level address &&& mask =
      ((operations.filterMap (Operation.sets? address)).getLast?.getD (bus.level address)) &&&
        mask := by
  induction operations generalizing bus with
  | nil => rfl
  | cons operation rest ih =>
    obtain ⟨hpins', hlevel⟩ :=
      bus.level_apply_pins address hpins (h operation (List.mem_cons_self ..))
    show ((bus.apply operation).after rest).level address &&& mask = _
    rw [ih _ hpins' fun other hin => h other (List.mem_cons_of_mem _ hin), List.filterMap_cons]
    cases hlast : (rest.filterMap (Operation.sets? address)).getLast? with
    | some value =>
      -- What is set later covers what this operation may have set.
      cases operation.sets? address with
      | none => rw [hlast]; rfl
      | some earlier => rw [List.getLast?_cons, hlast]; rfl
    | none =>
      have hnone := List.getLast?_eq_none_iff.mp hlast
      rw [hnone]
      refine hlevel.trans ?_
      cases operation.sets? address <;> rfl

/-! ## Faults -/

/-- A fault wears off with the writes to its address, and with nothing else. -/
theorem writeFaultAt_apply {operation : Operation} (h : operation.resetsWrites address = false) :
    (bus.apply operation).writeFaultAt address =
      if operation.isWriteTo address then (bus.writeFaultAt address).used
      else bus.writeFaultAt address := by
  cases operation with
  | failWrites other count =>
    have hne : address ≠ other := fun heq => of_decide_eq_false h heq.symm
    show (bus.failWrites other (.ofCount count.toNat)).writeFaultAt address = _
    rw [writeFaultAt_failWrites, if_neg hne]
    rfl
  | clearFaults => exact nomatch h
  | write other width value =>
    show (bus.write other width value).2.writeFaultAt address = _
    rw [writeFaultAt_write]
    by_cases heq : address = other
    · have hwrite : (Operation.write other width value).isWriteTo address = true :=
        decide_eq_true heq.symm
      rw [if_pos heq, if_pos hwrite, heq]
    · have hwrite : (Operation.write other width value).isWriteTo address = false :=
        decide_eq_false fun h => heq h.symm
      rw [if_neg heq, hwrite]
      rfl
  | read other width => exact writeFaultAt_read
  | setStrobed other selector value =>
    obtain ⟨strobes, heq⟩ := bus.apply_setStrobed other selector value
    rw [heq]
    rfl
  | connect =>
    rw [apply_connect]
    rfl
  | setLevel | setPins | script | strobe | failReads | failConnect => rfl

theorem writeFaultAt_after {operations : List Operation}
    (h : ∀ operation ∈ operations, operation.resetsWrites address = false) :
    (bus.after operations).writeFaultAt address =
      (bus.writeFaultAt address).usedBy (operations.countP (Operation.isWriteTo address)) :=
  pending_after (·.writeFaultAt address) (Operation.isWriteTo address)
    (fun operation hin bus => bus.writeFaultAt_apply address (h operation hin)) bus

/-- A write that succeeds is logged and selects from now on, and moves the lines of its own
register that are no pins. -/
theorem of_written (width : Width) (value : UInt16) :
    let left := bus.written address width value
    left.writes = bus.writes.push ⟨address, width, value &&& width.mask⟩ ∧
      left.selector address = value &&& width.mask ∧
      (∀ index, left.lineAt address index =
        (bus.lineAt address index).touched index (.write (value &&& width.mask))) ∧
      ∀ other, other ≠ address → left.level other = bus.level other := by
  refine ⟨rfl, ?_, fun index => ?_, fun other hne => ?_⟩
  · show (((bus.written address width value).latches.get? address)).getD _ = _
    rw [latches_written, if_pos rfl]
    rfl
  · exact bus.lineAt_written address width value index
  · rw [level_written, if_neg hne]

end Steps

/-! ## The books -/

/-- **Writes are accounted for.** After any run of operations on a new register file, and for
any address:

* the log is the writes that succeeded, oldest first, cut to their width;
* a register that is strobed through the address reads the value for the last word in the
  log for it, and for the level only if there is none;
* every line of the register, and whether it is a pin, is what the touches of this register
  alone make of a low line that is no pin;
* since its pins were last chosen, what stands on them is what was last set, or what stood
  there when they were chosen;
* a write that fails changes nothing but the fault at its own address, which wears off by
  one. -/
theorem writes_accounted (operations : List Operation) (address : Address) :
    let bus := ({} : MemoryBus).after operations
    let deeds := ({} : MemoryBus).deeds operations
    bus.writes.toList = deeds.filterMap Deed.wrote? ∧
      (∀ register strobed, bus.strobes.get? register = some strobed → strobed.select = address →
        bus.steady register =
          (strobed.values.get? ((lastWritten address bus.writes.toList).getD
            (bus.level address))).getD strobed.otherwise) ∧
      (∀ index, bus.lineAt address index =
        (deeds.filterMap (Deed.touch? address)).foldl (Line.touched index) {}) ∧
      (∀ earlier mask later, operations = earlier ++ .setPins address mask :: later →
        (∀ operation ∈ later, operation.choosesPins address = false) →
        bus.level address &&& mask =
          ((later.filterMap (Operation.sets? address)).getLast?.getD
            ((({} : MemoryBus).after earlier).level address)) &&& mask) ∧
      (∀ width value cause, (bus.write address width value).1 = .error cause →
        cause = .writeFailed address width value faultReason ∧
          (∃ writeFaults, (bus.write address width value).2 = { bus with writeFaults }) ∧
          (bus.write address width value).2.writeFaultAt address =
            (bus.writeFaultAt address).used ∧
          ∀ other, other ≠ address →
            (bus.write address width value).2.writeFaultAt other = bus.writeFaultAt other) := by
  intro bus deeds
  refine ⟨?log, ?strobed, ?lines, ?pinned, ?failed⟩
  case log => exact (writes_after {} operations).trans (List.nil_append _)
  case strobed =>
    intro register strobed hstrobed hselect
    have hselector : bus.selector address = _ := selector_after address operations
    unfold steady
    rw [hstrobed]
    dsimp only
    rw [hselect, hselector]
  case lines =>
    intro index
    refine (lineAt_after {} address operations index).trans ?_
    have hnew : ({} : MemoryBus).lineAt address index = {} := by
      show (⟨(0 : UInt16).toBitVec.getLsbD index, (0 : UInt16).toBitVec.getLsbD index⟩ : Line) = {}
      simp
    rw [hnew]
  case pinned =>
    intro earlier mask later hsplit hlater
    have hbus : bus = ((({} : MemoryBus).after earlier).setPins address mask).after later := by
      show ({} : MemoryBus).after operations = _
      rw [hsplit, after_append]
      rfl
    rw [hbus]
    refine level_after_pins _ address ?_ hlater
    exact congrArg (Option.getD · 0) (Table.get?_put_self ..)
  case failed =>
    intro width value cause hcause
    rcases bus.write_cases address width value with ⟨hwrote, _⟩ | ⟨_, hanswer, hleft⟩
    · unfold Deed.wrote? at hwrote
      dsimp only at hwrote
      rw [hcause] at hwrote
      exact nomatch hwrote
    · exact ⟨Except.error.inj (hcause.symm.trans hanswer), hleft,
        writeFaultAt_write.trans (if_pos rfl),
        fun other hne => writeFaultAt_write.trans (if_neg hne)⟩

/-- **Which writes succeed.** After any run of operations on a new register file, and for any
write:

* it succeeds if no fault is pending at its address, and only then;
* if it succeeds it is logged, it selects from now on, and it moves the lines of its own
  register that are no pins, and no others;
* after a fault for `count` writes, and with no other fault or clearing since, it fails if
  fewer than `count` writes came since, or if the fault is endless;
* with no fault since the start or since the last clearing it succeeds. -/
theorem writes_succeed (operations : List Operation) (address : Address) (width : Width)
    (value : UInt16) :
    let bus := ({} : MemoryBus).after operations
    let answer := (bus.write address width value).1
    let left := (bus.write address width value).2
    (answer.isOk = true ↔ bus.writeFaultAt address = .next 0) ∧
      (answer.isOk = true →
        left.writes = bus.writes.push ⟨address, width, value &&& width.mask⟩ ∧
          left.selector address = value &&& width.mask ∧
          (∀ index, left.lineAt address index =
            (bus.lineAt address index).touched index (.write (value &&& width.mask))) ∧
          ∀ other, other ≠ address → left.level other = bus.level other) ∧
      (∀ earlier count later, operations = earlier ++ .failWrites address count :: later →
        (∀ operation ∈ later, operation.resetsWrites address = false) →
        (answer.isOk = false ↔ count.toNat = Fault.endless ∨
          later.countP (Operation.isWriteTo address) < count.toNat)) ∧
      (∀ earlier later, operations = earlier ++ later →
        (earlier = [] ∨ earlier.getLast? = some .clearFaults) →
        (∀ operation ∈ later, operation.resetsWrites address = false) → answer.isOk = true) := by
  intro bus answer left
  have hiff : answer.isOk = true ↔ bus.writeFaultAt address = .next 0 := bus.isOk_write_iff address
  refine ⟨hiff, fun hok => ?_, ?fails, ?succeeds⟩
  · have hleft : left = bus.written address width value :=
      congrArg Prod.snd (write_eq_written (hiff.mp hok) width value)
    rw [hleft]
    exact bus.of_written address width value
  case fails =>
    intro earlier count later hsplit hlater
    have hbus : bus = (((({} : MemoryBus).after earlier).failWrites address
        (.ofCount count.toNat)).after later) := by
      show ({} : MemoryBus).after operations = _
      rw [hsplit, after_append]
      rfl
    rw [← Bool.not_eq_true, hiff, hbus, writeFaultAt_after _ address hlater,
      writeFaultAt_failWrites, if_pos rfl]
    exact Fault.usedBy_ofCount_ne_none_iff
  case succeeds =>
    intro earlier later hsplit hcleared hlater
    have hclear := (none_pending hcleared address).2
    refine hiff.mpr ?_
    show (({} : MemoryBus).after operations).writeFaultAt address = _
    rw [hsplit, after_append, writeFaultAt_after _ address hlater, hclear]
    exact congrArg Fault.next (Nat.zero_sub _)

-- What selects is the word last written, also when the register is set later.
example :
    let bus := ({} : MemoryBus).after [.strobe 4 8 0xEE, .setStrobed 4 1 0x10,
      .setStrobed 4 2 0x20, .setLevel 8 2, .write 8 .word 1, .setLevel 8 2]
    bus.steady 4 = 0x10 ∧ bus.level 8 = 2 := by decide

end MemoryBus

end InputBridge
