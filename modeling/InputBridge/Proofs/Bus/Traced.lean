import InputBridge.Proofs.Bus.Plans

/-!
# The accesses of a run that may be ended

A run that is fed to a receiver goes on as long as the receiver takes what it is handed. To say
which accesses were made until then, a bus is traced: `Traced` notes every access, whatever its
answer. `feed_traced` says that running on a traced bus is running on the bus, and that the
accesses are the first ones of the whole run, and all of them if the run comes to its end.
-/

namespace InputBridge

/-- A bus, and every access that was made of it, oldest first. -/
structure Traced (β : Type) where
  bus : β
  accesses : List Access := []

variable {β ω α τ ε : Type} [RegisterBus β]

instance : RegisterBus (Traced β) where
  connect traced :=
    let (answer, bus) := RegisterBus.connect traced.bus
    (answer, { traced with bus })
  read address width traced :=
    let (answer, bus) := RegisterBus.read address width traced.bus
    (answer, ⟨bus, traced.accesses ++ [.read address width]⟩)
  write address width value traced :=
    let (answer, bus) := RegisterBus.write address width value traced.bus
    (answer, ⟨bus, traced.accesses ++ [.write address width value]⟩)

namespace Program

/-- The accesses that a run makes, in order. -/
def accesses (program : Program ω α) (bus : β) : List Access :=
  (program.history bus).filterMap Moment.access?

/-- A run on a traced bus is the run on the bus. It makes the first accesses of the whole run, and
all of them if the receiver does not fail. -/
theorem feed_traced (receive : ω → τ → Except ε Unit × τ) (program : Program ω α) :
    ∀ (traced : Traced β) (state : τ), ∃ made,
      let fed := program.feed receive traced.bus state
      program.feed receive traced state = (fed.1, ⟨fed.2.1, traced.accesses ++ made⟩, fed.2.2) ∧
        made <+: program.accesses traced.bus ∧
        (fed.1.isOk = true → made = program.accesses traced.bus) := by
  induction program with
  | done value =>
    rintro ⟨bus, before⟩ state
    refine ⟨[], ?_, List.nil_prefix, fun _ => rfl⟩
    rw [List.append_nil]
    rfl
  | read address width branch ih =>
    rintro ⟨bus, before⟩ state
    obtain ⟨made, hfed, hfirst, hall⟩ := ih (RegisterBus.read address width bus).1
      ⟨(RegisterBus.read address width bus).2, before ++ [.read address width]⟩ state
    rw [List.append_assoc] at hfed
    exact ⟨.read address width :: made, hfed, List.cons_prefix_cons.mpr ⟨rfl, hfirst⟩,
      fun hok => congrArg (List.cons _) (hall hok)⟩
  | write address width value branch ih =>
    rintro ⟨bus, before⟩ state
    obtain ⟨made, hfed, hfirst, hall⟩ := ih (RegisterBus.write address width value bus).1
      ⟨(RegisterBus.write address width value bus).2, before ++ [.write address width value]⟩ state
    rw [List.append_assoc] at hfed
    exact ⟨.write address width value :: made, hfed, List.cons_prefix_cons.mpr ⟨rfl, hfirst⟩,
      fun hok => congrArg (List.cons _) (hall hok)⟩
  | emit out rest ih =>
    rintro ⟨bus, before⟩ state
    unfold feed
    obtain ⟨answer, next⟩ := receive out state
    cases answer with
    | ok _ => exact ih ⟨bus, before⟩ next
    | error problem =>
      -- The receiver fails: nothing more is done.
      refine ⟨[], ?_, List.nil_prefix, fun hok => (nomatch hok)⟩
      rw [List.append_nil]

end Program

end InputBridge
