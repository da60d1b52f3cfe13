import InputBridge.Bus.Stuck
import InputBridge.Proofs.Bus.History
import InputBridge.Proofs.Bus.WriteAccounts

/-!
# Attempts that follow a plan

Some attempts make the same accesses whatever words they read, and give up at the first
access that fails. `Attempt.Follows plan` says so of every branch, `Follows.bind` composes
plans, and `Follows.run` says what that means on any bus: either the plan is carried out and
the attempt gets its value, or it is given up at some access, with the failure of that access,
and none is made after it.

On a register file it is known beforehand which one that is, since a successful access uses up
no fault: it is the first access of the plan for which a fault is pending (`run_granted`,
`run_refused`). And what a run adds to the log can be read off its history (`writes_run`).
-/

namespace InputBridge

variable {ω α γ β : Type}

/-! ## Accesses and what became of them -/

namespace Moment

/-- The access of a moment, if it is one. -/
def access? : Moment ω → Option Access
  | .read address width _ => some (.read address width)
  | .write address width value _ => some (.write address width value)
  | .remark _ => none

/-- Why the access of a moment failed, if it is one and did. -/
def failure? : Moment ω → Option BusError
  | .read _ _ (.error cause) => some cause
  | .write _ _ _ (.error cause) => some cause
  | _ => none

/-- What a moment wrote, if it is a write that succeeded. -/
def wrote? : Moment ω → Option Written
  | .write address width value (.ok ()) => some ⟨address, width, value &&& width.mask⟩
  | _ => none

theorem wrote?_of_failure {moment : Moment ω} {cause : BusError}
    (h : moment.failure? = some cause) : moment.wrote? = none := by
  cases moment with
  | read => rfl
  | remark => rfl
  | write address width value answer =>
    cases answer with
    | error => rfl
    | ok => exact nomatch h

theorem eq_read_of_failure {moment : Moment ω} {address : Address} {width : Width}
    {cause : BusError} (haccess : moment.access? = some (.read address width))
    (hcause : moment.failure? = some cause) : moment = .read address width (.error cause) := by
  cases moment with
  | remark => exact nomatch haccess
  | write => exact nomatch haccess
  | read other width' answer =>
    cases haccess
    cases answer with
    | ok => exact nomatch hcause
    | error cause' => rw [Option.some.inj hcause]

theorem eq_write_of_failure {moment : Moment ω} {address : Address} {width : Width}
    {value : UInt16} {cause : BusError}
    (haccess : moment.access? = some (.write address width value))
    (hcause : moment.failure? = some cause) :
    moment = .write address width value (.error cause) := by
  cases moment with
  | remark => exact nomatch haccess
  | read => exact nomatch haccess
  | write other width' value' answer =>
    cases haccess
    cases answer with
    | ok => exact nomatch hcause
    | error cause' => rw [Option.some.inj hcause]

end Moment

/-- What an access writes if it succeeds. -/
def Access.written? : Access → Option Written
  | .read .. => none
  | .write address width value => some ⟨address, width, value &&& width.mask⟩

/-- A plan was carried out: its accesses were made in order, and none of them failed. -/
structure CarriedOut (plan : List Access) (made : List (Moment ω)) : Prop where
  accesses : made.map Moment.access? = plan.map some
  granted : ∀ moment ∈ made, moment.failure? = none

/-- The accesses in `done` were made in order and none of them failed. Then `failing` was made
and failed with `cause`, and nothing was done after it. -/
def GivenUp (done : List Access) (failing : Access) (cause : BusError)
    (made : List (Moment ω)) : Prop :=
  ∃ granted refused, made = granted ++ [refused] ∧ CarriedOut done granted ∧
    refused.access? = some failing ∧ refused.failure? = some cause

section Made

variable {plan done : List Access} {access failing : Access} {cause : BusError}
  {moment : Moment ω} {made : List (Moment ω)}

theorem CarriedOut.nil : CarriedOut [] ([] : List (Moment ω)) := ⟨rfl, fun _ hin => nomatch hin⟩

theorem CarriedOut.cons (h : CarriedOut plan made) (haccess : moment.access? = some access)
    (hgranted : moment.failure? = none) : CarriedOut (access :: plan) (moment :: made) where
  accesses := by rw [List.map_cons, List.map_cons, haccess, h.accesses]
  granted other hin := by
    rcases List.mem_cons.mp hin with rfl | hrest
    · exact hgranted
    · exact h.granted other hrest

theorem GivenUp.single (haccess : moment.access? = some failing)
    (hfailure : moment.failure? = some cause) : GivenUp [] failing cause [moment] :=
  ⟨[], moment, rfl, .nil, haccess, hfailure⟩

theorem GivenUp.cons (h : GivenUp done failing cause made)
    (haccess : moment.access? = some access) (hgranted : moment.failure? = none) :
    GivenUp (access :: done) failing cause (moment :: made) := by
  obtain ⟨granted, refused, hmade, hdone, hfailing, hcause⟩ := h
  exact ⟨moment :: granted, refused, by rw [hmade]; rfl, hdone.cons haccess hgranted, hfailing,
    hcause⟩

/-- An access that did not fail wrote what it was to write. -/
theorem Moment.wrote?_of_granted (haccess : moment.access? = some access)
    (hgranted : moment.failure? = none) : moment.wrote? = access.written? := by
  cases moment with
  | remark => exact nomatch haccess
  | read => rw [← Option.some.inj haccess]; rfl
  | write address width value answer =>
    rw [← Option.some.inj haccess]
    cases answer with
    | error => exact nomatch hgranted
    | ok => rfl

theorem CarriedOut.wrote : ∀ {plan : List Access} {made : List (Moment ω)}, CarriedOut plan made →
    made.filterMap Moment.wrote? = plan.filterMap Access.written?
  | [], [], _ => rfl
  | [], _ :: _, h => nomatch h.accesses
  | _ :: _, [], h => nomatch h.accesses
  | access :: plan, moment :: made, h => by
    obtain ⟨haccess, haccesses⟩ := List.cons.inj h.accesses
    have hrest : CarriedOut plan made :=
      ⟨haccesses, fun other hin => h.granted other (List.mem_cons_of_mem _ hin)⟩
    have hfirst := Moment.wrote?_of_granted haccess (h.granted moment (List.mem_cons_self ..))
    rw [List.filterMap_cons, List.filterMap_cons, hfirst, hrest.wrote]

/-- What was written before a plan was given up is what was to be written until then. -/
theorem GivenUp.wrote (h : GivenUp done failing cause made) :
    made.filterMap Moment.wrote? = done.filterMap Access.written? := by
  obtain ⟨granted, refused, rfl, hdone, -, hcause⟩ := h
  rw [List.filterMap_append, hdone.wrote, List.filterMap_cons_none
    (Moment.wrote?_of_failure hcause), List.filterMap_nil, List.append_nil]

end Made

/-! ## Plans -/

/-- The accesses on each branch are those of a plan, in order; the first that fails ends the
branch with its failure. -/
inductive Program.Follows : List Access → Program ω (Except BusError α) → Prop where
  | done (value : α) : Follows [] (.done (.ok value))
  | read {plan : List Access} {address : Address} {width : Width}
      {branch : Except BusError UInt16 → Program ω (Except BusError α)}
      (failed : ∀ cause, branch (.error cause) = .done (.error cause))
      (got : ∀ word, Follows plan (branch (.ok word))) :
      Follows (.read address width :: plan) (.read address width branch)
  | write {plan : List Access} {address : Address} {width : Width} {value : UInt16}
      {branch : Except BusError Unit → Program ω (Except BusError α)}
      (failed : ∀ cause, branch (.error cause) = .done (.error cause))
      (got : Follows plan (branch (.ok ()))) :
      Follows (.write address width value :: plan) (.write address width value branch)

namespace Attempt

/-- The attempt makes the accesses of a plan, and gives up at the first that fails. -/
def Follows (plan : List Access) (attempt : Attempt ω α) : Prop :=
  Program.Follows plan attempt.run

theorem follows_pure (value : α) : (pure value : Attempt ω α).Follows [] := .done value

theorem Follows.bind {plan later : List Access} {first : Attempt ω α} {next : α → Attempt ω γ}
    (hfirst : first.Follows plan) (hnext : ∀ value, (next value).Follows later) :
    (first >>= next).Follows (plan ++ later) := by
  unfold Follows at hfirst hnext ⊢
  rw [ExceptT.run_bind]
  generalize first.run = program at hfirst
  -- The plan of the first attempt is kept, and only its end grows.
  induction hfirst with
  | done value => exact hnext value
  | read failed got ih => exact .read (fun cause => by rw [failed]; rfl) ih
  | write failed got ih => exact .write (fun cause => by rw [failed]; rfl) ih

theorem follows_read (address : Address) (width : Width) :
    (read address width : Attempt ω UInt16).Follows [.read address width] :=
  .read (fun _ => rfl) fun word => .done word

theorem follows_write (address : Address) (width : Width) (value : UInt16) :
    (write address width value : Attempt ω Unit).Follows [.write address width value] :=
  .write (fun _ => rfl) (.done ())

theorem follows_readByte (address : Address) :
    (readByte address : Attempt ω UInt8).Follows [.read address .byte] :=
  (follows_read address .byte).bind fun word => follows_pure word.toUInt8

end Attempt

/-- What came of a plan that ended in `value`: it was carried out, or it was given up at one of
its accesses. -/
def Outcome (plan : List Access) (made : List (Moment ω)) : Except BusError α → Prop
  | .ok _ => CarriedOut plan made
  | .error cause => ∃ done failing rest, plan = done ++ failing :: rest ∧
      GivenUp done failing cause made

section Outcome

variable {plan : List Access} {access : Access} {moment : Moment ω} {made : List (Moment ω)}

theorem Outcome.refused {cause : BusError} (haccess : moment.access? = some access)
    (hfailure : moment.failure? = some cause) :
    Outcome (access :: plan) [moment] (.error cause : Except BusError α) :=
  ⟨[], access, plan, rfl, .single haccess hfailure⟩

theorem Outcome.cons {value : Except BusError α} (h : Outcome plan made value)
    (haccess : moment.access? = some access) (hgranted : moment.failure? = none) :
    Outcome (access :: plan) (moment :: made) value := by
  cases value with
  | ok value => exact CarriedOut.cons h haccess hgranted
  | error cause =>
    obtain ⟨done, failing, rest, hplan, hmade⟩ := h
    exact ⟨access :: done, failing, rest, congrArg (List.cons access) hplan,
      hmade.cons haccess hgranted⟩

end Outcome

/-- On any bus a plan is carried out or given up. -/
theorem Program.Follows.run [RegisterBus β] {plan : List Access}
    {program : Program ω (Except BusError α)} (h : program.Follows plan) (bus : β) :
    Outcome plan (program.history bus) (program.run bus).value := by
  induction h generalizing bus with
  | done value => exact CarriedOut.nil
  | @read plan address width branch failed got ih =>
    simp only [Program.run, Program.history]
    obtain ⟨answer, left⟩ := RegisterBus.read address width bus
    cases answer with
    | ok word => exact (ih word left).cons rfl rfl
    | error cause =>
      dsimp only
      rw [failed]
      exact .refused rfl rfl
  | @write plan address width value branch failed got ih =>
    simp only [Program.run, Program.history]
    obtain ⟨answer, left⟩ := RegisterBus.write address width value bus
    cases answer with
    | ok => exact (ih left).cons rfl rfl
    | error cause =>
      dsimp only
      rw [failed]
      exact .refused rfl rfl

/-! ## Plans on a register file -/

/-- The failure of an access that meets a fault. -/
def Access.refusal : Access → BusError
  | .read address width => .readFailed address width MemoryBus.faultReason
  | .write address width value => .writeFailed address width value MemoryBus.faultReason

namespace MemoryBus

/-- Is a fault pending for this access? -/
def Refuses (bus : MemoryBus) : Access → Prop
  | .read address _ => bus.faultAt address ≠ .next 0
  | .write address _ _ => bus.writeFaultAt address ≠ .next 0

instance (bus : MemoryBus) : DecidablePred bus.Refuses
  | .read address _ => inferInstanceAs (Decidable (bus.faultAt address ≠ .next 0))
  | .write address _ _ => inferInstanceAs (Decidable (bus.writeFaultAt address ≠ .next 0))

section Access

variable {bus : MemoryBus} {address : Address} {width : Width} {value : UInt16}

/-- A read that meets no fault succeeds, and uses up none. -/
theorem read_of_granted (h : ¬bus.Refuses (.read address width)) :
    (∃ word, (bus.read address width).1 = .ok word) ∧
      ∀ access, (bus.read address width).2.Refuses access ↔ bus.Refuses access := by
  have hfault : bus.faultAt address = .next 0 := Decidable.not_not.mp h
  refine ⟨⟨_, answer_read.trans (if_pos hfault)⟩, fun access => ?_⟩
  cases access with
  | write other width value => exact not_congr (by rw [writeFaultAt_read])
  | read other width =>
    refine not_congr ?_
    rw [faultAt_read, Fault.used_of_none hfault]
    split
    next heq => rw [heq]
    next => rfl

/-- A write that meets no fault succeeds, and uses up none. -/
theorem write_of_granted (h : ¬bus.Refuses (.write address width value)) :
    (bus.write address width value).1 = .ok () ∧
      ∀ access, (bus.write address width value).2.Refuses access ↔ bus.Refuses access := by
  have hfault : bus.writeFaultAt address = .next 0 := Decidable.not_not.mp h
  refine ⟨answer_write.trans (if_pos hfault), fun access => ?_⟩
  cases access with
  | read other width => exact not_congr (by rw [faultAt_write])
  | write other width value =>
    refine not_congr ?_
    rw [writeFaultAt_write, Fault.used_of_none hfault]
    split
    next heq => rw [heq]
    next => rfl

end Access

end MemoryBus

namespace Program.Follows

variable {plan done rest : List Access} {access failing : Access}
  {program : Program ω (Except BusError α)} {bus : MemoryBus}

/-- The first access of a plan, if no fault is pending for it: it is made, and what remains
follows the rest of the plan on a register file that refuses the same accesses. -/
theorem step_granted (h : program.Follows (access :: plan)) (hgranted : ¬bus.Refuses access) :
    ∃ (next : Program ω (Except BusError α)) (left : MemoryBus) (moment : Moment ω),
      next.Follows plan ∧ (∀ other, left.Refuses other ↔ bus.Refuses other) ∧
      moment.access? = some access ∧ moment.failure? = none ∧
      (program.run bus).value = (next.run left).value ∧
      program.history bus = moment :: next.history left := by
  cases h with
  | @read _ address width branch failed got =>
    obtain ⟨⟨word, hword⟩, hsame⟩ := MemoryBus.read_of_granted hgranted
    have hbranch : branch (bus.read address width).1 = branch (.ok word) := by rw [hword]
    refine ⟨branch (.ok word), (bus.read address width).2,
      .read address width (bus.read address width).1, got word, hsame, rfl, by rw [hword]; rfl,
      ?_, ?_⟩
    · rw [← hbranch]
      rfl
    · rw [← hbranch]
      rfl
  | @write _ address width value branch failed got =>
    obtain ⟨hok, hsame⟩ := MemoryBus.write_of_granted hgranted
    have hbranch : branch (bus.write address width value).1 = branch (.ok ()) := by rw [hok]
    refine ⟨branch (.ok ()), (bus.write address width value).2,
      .write address width value (bus.write address width value).1, got, hsame, rfl,
      by rw [hok]; rfl, ?_, ?_⟩
    · rw [← hbranch]
      rfl
    · rw [← hbranch]
      rfl

/-- If a fault is pending for it, it fails with that, and nothing is done after it. -/
theorem step_refused (h : program.Follows (failing :: rest)) (hrefused : bus.Refuses failing) :
    (program.run bus).value = .error failing.refusal ∧
      GivenUp [] failing failing.refusal (program.history bus) := by
  cases h with
  | @read _ address width branch failed got =>
    have hanswer : RegisterBus.read address width bus =
        (.error (Access.read address width).refusal, (bus.read address width).2) :=
      Prod.ext (MemoryBus.answer_read.trans (if_neg hrefused)) rfl
    rw [Program.run, Program.history, hanswer]
    dsimp only
    rw [failed]
    exact ⟨rfl, .single rfl rfl⟩
  | @write _ address width value branch failed got =>
    have hanswer : RegisterBus.write address width value bus =
        (.error (Access.write address width value).refusal, (bus.write address width value).2) :=
      Prod.ext (MemoryBus.answer_write.trans (if_neg hrefused)) rfl
    rw [Program.run, Program.history, hanswer]
    dsimp only
    rw [failed]
    exact ⟨rfl, .single rfl rfl⟩

/-- On a register file a plan is carried out if no fault is pending for any of its accesses. -/
theorem run_granted (h : program.Follows plan) (hgranted : ∀ access ∈ plan, ¬bus.Refuses access) :
    (∃ value, (program.run bus).value = .ok value) ∧ CarriedOut plan (program.history bus) := by
  induction plan generalizing program bus with
  | nil =>
    cases h with
    | done value => exact ⟨⟨value, rfl⟩, .nil⟩
  | cons access plan ih =>
    obtain ⟨next, left, moment, hnext, hsame, haccess, hok, hvalue, hhistory⟩ :=
      h.step_granted (hgranted access (List.mem_cons_self ..))
    obtain ⟨hended, hmade⟩ := ih hnext fun other hin hrefuses =>
      hgranted other (List.mem_cons_of_mem _ hin) ((hsame other).mp hrefuses)
    rw [hvalue, hhistory]
    exact ⟨hended, hmade.cons haccess hok⟩

/-- It is given up at the first access for which a fault is pending, and fails with that. -/
theorem run_refused (h : program.Follows (done ++ failing :: rest))
    (hgranted : ∀ access ∈ done, ¬bus.Refuses access) (hrefused : bus.Refuses failing) :
    (program.run bus).value = .error failing.refusal ∧
      GivenUp done failing failing.refusal (program.history bus) := by
  induction done generalizing program bus with
  | nil => exact h.step_refused hrefused
  | cons access done ih =>
    obtain ⟨next, left, moment, hnext, hsame, haccess, hok, hvalue, hhistory⟩ :=
      h.step_granted (hgranted access (List.mem_cons_self ..))
    obtain ⟨hended, hmade⟩ := ih hnext (fun other hin hrefuses =>
      hgranted other (List.mem_cons_of_mem _ hin) ((hsame other).mp hrefuses))
      ((hsame failing).mpr hrefused)
    rw [hvalue, hhistory]
    exact ⟨hended, hmade.cons haccess hok⟩

end Program.Follows

/-! ## The log of a run -/

namespace MemoryBus

theorem writes_write (address : Address) (width : Width) (value : UInt16) (bus : MemoryBus) :
    (bus.write address width value).2.writes.toList = bus.writes.toList ++
      (Moment.write address width value (bus.write address width value).1 :
        Moment ω).wrote?.toList := by
  rw [write_eq]
  split
  next => exact (List.append_nil _).symm
  next => exact (List.append_nil _).symm
  next => exact Array.toList_push

/-- The log after a run holds what it held before, and then what the run wrote. -/
theorem writes_run (program : Program ω α) (bus : MemoryBus) :
    (program.run bus).bus.writes.toList =
      bus.writes.toList ++ (program.history bus).filterMap Moment.wrote? := by
  induction program generalizing bus with
  | done value => exact (List.append_nil _).symm
  | emit out rest ih => exact ih bus
  | read address width branch ih =>
    have hsame : (bus.read address width).2.writes.toList = bus.writes.toList :=
      (bus.writes_apply (.read address width)).trans (List.append_nil _)
    show ((branch (bus.read address width).1).run (bus.read address width).2).bus.writes.toList = _
    rw [ih, hsame]
    rfl
  | write address width value branch ih =>
    show ((branch (bus.write address width value).1).run
        (bus.write address width value).2).bus.writes.toList = _ ++
      (Moment.write address width value (bus.write address width value).1 ::
        (branch (bus.write address width value).1).history
          (bus.write address width value).2).filterMap Moment.wrote?
    rw [ih, writes_write (ω := ω), List.append_assoc, List.filterMap_cons]
    cases (Moment.write address width value (bus.write address width value).1 :
      Moment ω).wrote? <;> rfl

end MemoryBus

end InputBridge
