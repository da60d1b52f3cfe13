import InputBridge.Proofs.Bus.Scope

/-!
# Programs that run alike

What a device makes of an answer may depend on some of its bits only. `Alike heed`
relates two programs that read the same registers and say the same, as long as
their answers agree in the bits that `heed` names. `Alike.run` is the two-run
theorem: on buses whose answers to these reads agree, and keep agreeing, both
runs end in the same value after the same remarks. A program that does not write
and heeds every bit is alike to itself (`Within.alike`).
-/

namespace InputBridge

/-- The registers that are read, and the bits of each that matter. -/
structure Heed where
  registers : Address → Prop
  bits : Address → UInt16

/-- The same failure, or words that agree in the bits of `mask`. -/
def AnswersAgree (mask : UInt16) : Except BusError UInt16 → Except BusError UInt16 → Prop
  | .ok word, .ok word' => word &&& mask = word' &&& mask
  | .error cause, .error cause' => cause = cause'
  | _, _ => False

theorem AnswersAgree.refl (mask : UInt16) (answer : Except BusError UInt16) :
    AnswersAgree mask answer answer := by cases answer <;> rfl

/-- Answers that agree are the same failure, or words that agree. -/
@[elab_as_elim]
theorem AnswersAgree.elim {mask : UInt16}
    {motive : Except BusError UInt16 → Except BusError UInt16 → Prop}
    {answer answer' : Except BusError UInt16} (h : AnswersAgree mask answer answer')
    (herror : ∀ cause, motive (.error cause) (.error cause))
    (hok : ∀ word word', word &&& mask = word' &&& mask → motive (.ok word) (.ok word')) :
    motive answer answer' := by
  cases answer with
  | error cause => cases answer' with
    | error cause' =>
      obtain rfl : cause = cause' := h
      exact herror cause
    | ok word' => exact False.elim h
  | ok word => cases answer' with
    | error cause' => exact False.elim h
    | ok word' => exact hok word word' h

/-- If every bit matters, answers that agree are the same. -/
theorem AnswersAgree.eq_of_all {answer answer' : Except BusError UInt16}
    (h : AnswersAgree 0xFFFF answer answer') : answer = answer' := by
  have hall : ∀ word : UInt16, word &&& 0xFFFF = word := by
    intro word
    exact UInt16.and_neg_one
  refine h.elim (fun _ => rfl) fun word word' hword => ?_
  rw [hall, hall] at hword
  exact congrArg Except.ok hword

namespace Program

variable {ω α β γ : Type} {heed : Heed}

/-- Read-only programs that go the same way on answers that agree where they are
heeded, and end in the same value, one with `post`. -/
inductive Alike (heed : Heed) (post : α → Prop) : Program ω α → Program ω α → Prop
  | done {value : α} (h : post value) : Alike heed post (.done value) (.done value)
  | read {address : Address} {width : Width} {branch branch' : Except BusError UInt16 → Program ω α}
      (hin : heed.registers address)
      (h : ∀ answer answer', AnswersAgree (heed.bits address) answer answer' →
        Alike heed post (branch answer) (branch' answer')) :
      Alike heed post (.read address width branch) (.read address width branch')
  | emit {out : ω} {rest rest' : Program ω α} (h : Alike heed post rest rest') :
      Alike heed post (.emit out rest) (.emit out rest')

theorem Alike.bind {mid : α → Prop} {post : γ → Prop} {first first' : Program ω α}
    {next next' : α → Program ω γ} (hfirst : Alike heed mid first first')
    (hnext : ∀ value, mid value → Alike heed post (next value) (next' value)) :
    Alike heed post (first >>= next) (first' >>= next') := by
  show Alike heed post (first.bind next) (first'.bind next')
  induction hfirst with
  | done h => exact hnext _ h
  | read hin _ ih => exact .read hin ih
  | emit _ ih => exact .emit ih

/-- A program that only reads, and heeds every bit of what it reads, is alike to itself. -/
theorem Within.alike {scope : Scope ω} {post : α → Prop} {program : Program ω α}
    (h : program.Within scope post)
    (hreads : ∀ address width, scope.reads address width →
      heed.registers address ∧ heed.bits address = 0xFFFF)
    (hwrites : ∀ address width value, ¬scope.writes address width value) :
    Alike heed post program program := by
  induction program with
  | done value => exact .done h
  | read address width branch ih =>
    obtain ⟨hin, hbits⟩ := hreads address width h.1
    refine .read hin fun answer answer' hagree => ?_
    rw [hbits] at hagree
    rw [hagree.eq_of_all]
    exact ih answer' (h.2 answer')
  | write address width value branch ih => exact absurd h.1 (hwrites address width value)
  | emit out rest ih => exact .emit (ih h.2)

/-- Each of two alike programs only reads, and only what is heeded. -/
theorem Alike.within {post : α → Prop} {program program' : Program ω α}
    (h : Alike heed post program program') :
    program.Within
      { reads := fun address _ => heed.registers address, writes := fun _ _ _ => False } post := by
  induction h with
  | done h => exact h
  | read hin _ ih => exact ⟨hin, fun answer => ih answer answer (AnswersAgree.refl _ answer)⟩
  | emit _ ih => exact ⟨trivial, ih⟩

/-- As long as only writes are restricted, each of two alike programs is within the scope. -/
theorem Alike.within_writing {post : α → Prop} {program program' : Program ω α}
    (h : Alike heed post program program') (writes : Address → Width → UInt16 → Prop) :
    program.Within { writes } fun _ => True := by
  refine h.within.imp (fun moment hmoment => ?_) fun _ _ => trivial
  cases moment with
  | read => exact trivial
  | write => exact hmoment.elim
  | remark => exact trivial

/-- Alike programs on related buses: if related buses answer every heeded read in
agreement and stay related, both runs give the same. -/
theorem Alike.run [RegisterBus β] {related : β → β → Prop}
    (hread : ∀ address width bus bus', heed.registers address → related bus bus' →
      AnswersAgree (heed.bits address) (RegisterBus.read address width bus).1
          (RegisterBus.read address width bus').1 ∧
        related (RegisterBus.read address width bus).2 (RegisterBus.read address width bus').2)
    {post : α → Prop} {program program' : Program ω α} (h : Alike heed post program program')
    {bus bus' : β} (hrel : related bus bus') :
    (program.run bus).value = (program'.run bus').value ∧
      (program.run bus).remarks = (program'.run bus').remarks ∧
      related (program.run bus).bus (program'.run bus').bus := by
  induction h generalizing bus bus' with
  | done h => exact ⟨rfl, rfl, hrel⟩
  | read hin _ ih =>
    obtain ⟨hagree, hrel'⟩ := hread _ _ bus bus' hin hrel
    exact ih _ _ hagree hrel'
  | emit _ ih =>
    obtain ⟨hvalue, hremarks, hrel'⟩ := ih hrel
    exact ⟨hvalue, congrArg (List.cons _) hremarks, hrel'⟩

end Program

end InputBridge
