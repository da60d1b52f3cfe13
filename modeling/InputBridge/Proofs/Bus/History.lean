import InputBridge.Bus.Program

/-!
# The history of a run

`history` is a run written out: every access with its answer and every remark,
first to last. It is what statements about the order of things speak of, such as
"the moves reported after a read of this register". `history_bind` composes
histories as `run_bind` composes runs, and `remarks_run` says that the remarks of
a run are those of its history.
-/

namespace InputBridge

/-- One thing that happens in a run. -/
inductive Moment (ω : Type) where
  | read (address : Address) (width : Width) (answer : Except BusError UInt16)
  | write (address : Address) (width : Width) (value : UInt16) (answer : Except BusError Unit)
  | remark (out : ω)

/-- The remark of a moment, if it is one. -/
def Moment.remark? {ω : Type} : Moment ω → Option ω
  | .remark out => some out
  | _ => none

namespace Program

variable {ω α β γ : Type}

/-- What happens in a run, first to last. -/
def history [RegisterBus β] : Program ω α → β → List (Moment ω)
  | .done _, _ => []
  | .read address width branch, bus =>
    let (answer, bus) := RegisterBus.read address width bus
    .read address width answer :: (branch answer).history bus
  | .write address width value branch, bus =>
    let (answer, bus) := RegisterBus.write address width value bus
    .write address width value answer :: (branch answer).history bus
  | .emit out rest, bus => .remark out :: rest.history bus

/-- Histories compose as runs do. -/
theorem history_bind [RegisterBus β] (first : Program ω α) (next : α → Program ω γ) (bus : β) :
    (first >>= next).history bus =
      first.history bus ++ (next (first.run bus).value).history (first.run bus).bus := by
  show (first.bind next).history bus = _
  induction first generalizing bus with
  | done value => rfl
  | read address width branch ih => exact congrArg (List.cons _) (ih _ _)
  | write address width value branch ih => exact congrArg (List.cons _) (ih _ _)
  | emit out rest ih => exact congrArg (List.cons _) (ih bus)

@[simp] theorem history_pure [RegisterBus β] (value : α) (bus : β) :
    (pure value : Program ω α).history bus = [] := rfl

@[simp] theorem history_remarks [RegisterBus β] (outs : List ω) (bus : β) :
    (remarks outs).history bus = outs.map .remark := by
  induction outs with
  | nil => rfl
  | cons out rest ih => exact congrArg (List.cons _) ih

theorem remarks_run [RegisterBus β] (program : Program ω α) (bus : β) :
    (program.run bus).remarks = (program.history bus).filterMap Moment.remark? := by
  induction program generalizing bus with
  | done value => rfl
  | read address width branch ih => exact ih _ _
  | write address width value branch ih => exact ih _ _
  | emit out rest ih => exact congrArg (List.cons out) (ih bus)

end Program

end InputBridge
