import InputBridge.Proofs.Bus.History

/-!
# What a program may do

A program is a tree, so a statement about every run of it on every bus is a
statement about its branches. `Within scope post program` says that each access
and each remark on each branch is one that `scope` allows, and that each branch
ends in a value with `post`. `within_bind` composes such statements;
`Attempt.Within` is the same for programs that may give up, where `post` is
claimed of the values that are got. What it gives of a run:

* `Within.value_run`: its value;
* `Within.history_run` and `Within.remarks_run`: every moment of it;
* `Within.bus_run`: what each allowed access keeps of the bus, the run keeps.
-/

namespace InputBridge

/-- The accesses and remarks that are allowed; all of them unless said otherwise. -/
structure Scope (ω : Type) where
  reads : Address → Width → Prop := fun _ _ => True
  writes : Address → Width → UInt16 → Prop := fun _ _ _ => True
  remarks : ω → Prop := fun _ => True

/-- Is this moment allowed, whatever the bus answered? -/
def Scope.Allows {ω : Type} (scope : Scope ω) : Moment ω → Prop
  | .read address width _ => scope.reads address width
  | .write address width value _ => scope.writes address width value
  | .remark out => scope.remarks out

theorem Moment.allows_all {ω : Type} (moment : Moment ω) : ({} : Scope ω).Allows moment := by
  cases moment <;> trivial

namespace Program

variable {ω α β γ : Type}

/-- Every branch of a program keeps to `scope` and ends in a value with `post`. -/
def Within (scope : Scope ω) (post : α → Prop) : Program ω α → Prop
  | .done value => post value
  | .read address width branch =>
    scope.reads address width ∧ ∀ answer, (branch answer).Within scope post
  | .write address width value branch =>
    scope.writes address width value ∧ ∀ answer, (branch answer).Within scope post
  | .emit out rest => scope.remarks out ∧ rest.Within scope post

/-! ## Composition -/

theorem within_pure {scope : Scope ω} {post : α → Prop} {value : α} (h : post value) :
    (pure value : Program ω α).Within scope post := h

theorem within_bind {scope : Scope ω} {mid : α → Prop} {post : γ → Prop}
    {first : Program ω α} {next : α → Program ω γ} (hfirst : first.Within scope mid)
    (hnext : ∀ value, mid value → (next value).Within scope post) :
    (first >>= next).Within scope post := by
  show (first.bind next).Within scope post
  -- The tree of the first program is kept; only its ends grow.
  induction first with
  | done value => exact hnext value hfirst
  | read address width branch ih => exact ⟨hfirst.1, fun answer => ih answer (hfirst.2 answer)⟩
  | write address width value branch ih =>
    exact ⟨hfirst.1, fun answer => ih answer (hfirst.2 answer)⟩
  | emit out rest ih => exact ⟨hfirst.1, ih hfirst.2⟩

theorem Within.imp {scope larger : Scope ω} {post weaker : α → Prop} {program : Program ω α}
    (h : program.Within scope post) (hscope : ∀ moment, scope.Allows moment → larger.Allows moment)
    (hpost : ∀ value, post value → weaker value) : program.Within larger weaker := by
  induction program with
  | done value => exact hpost value h
  | read address width branch ih =>
    exact ⟨hscope (.read address width (.ok 0)) h.1, fun answer => ih answer (h.2 answer)⟩
  | write address width value branch ih =>
    exact ⟨hscope (.write address width value (.ok ())) h.1, fun answer => ih answer (h.2 answer)⟩
  | emit out rest ih => exact ⟨hscope (.remark out) h.1, ih h.2⟩

/-- Without a scope to keep to, what matters is where the branches end. -/
theorem Within.anywhere {scope : Scope ω} {post : α → Prop} {program : Program ω α}
    (h : program.Within scope post) : program.Within {} post :=
  h.imp (fun moment _ => moment.allows_all) fun _ hpost => hpost

theorem within_true : ∀ program : Program ω α, program.Within {} fun _ => True
  | .done _ => trivial
  | .read _ _ branch => ⟨trivial, fun answer => within_true (branch answer)⟩
  | .write _ _ _ branch => ⟨trivial, fun answer => within_true (branch answer)⟩
  | .emit _ rest => ⟨trivial, within_true rest⟩

theorem within_remarks {scope : Scope ω} {outs : List ω} (h : ∀ out ∈ outs, scope.remarks out) :
    (remarks outs).Within scope fun _ => True := by
  induction outs with
  | nil => exact trivial
  | cons out rest ih =>
    exact ⟨h out (List.mem_cons_self ..), ih fun o ho => h o (List.mem_cons_of_mem _ ho)⟩

/-! ## Runs -/

section Run

variable [RegisterBus β] {scope : Scope ω} {post : α → Prop} {program : Program ω α}

theorem Within.value_run (h : program.Within scope post) (bus : β) :
    post (program.run bus).value := by
  induction program generalizing bus with
  | done value => exact h
  | read address width branch ih => exact ih _ (h.2 _) _
  | write address width value branch ih => exact ih _ (h.2 _) _
  | emit out rest ih => exact ih h.2 bus

/-- What each allowed access keeps of the bus, a run keeps. -/
theorem Within.bus_run {inv : β → Prop} (h : program.Within scope post)
    (hread : ∀ address width bus, scope.reads address width → inv bus →
      inv (RegisterBus.read address width bus).2)
    (hwrite : ∀ address width value bus, scope.writes address width value → inv bus →
      inv (RegisterBus.write address width value bus).2)
    {bus : β} (hinv : inv bus) : inv (program.run bus).bus := by
  induction program generalizing bus with
  | done value => exact hinv
  | read address width branch ih => exact ih _ (h.2 _) (hread address width bus h.1 hinv)
  | write address width value branch ih =>
    exact ih _ (h.2 _) (hwrite address width value bus h.1 hinv)
  | emit out rest ih => exact ih h.2 hinv

theorem Within.history_run (h : program.Within scope post) (bus : β) :
    ∀ moment ∈ program.history bus, scope.Allows moment := by
  induction program generalizing bus with
  | done value => intro moment hm; cases hm
  | read address width branch ih =>
    intro moment hm
    rcases List.mem_cons.mp hm with rfl | hrest
    · exact h.1
    · exact ih _ (h.2 _) _ moment hrest
  | write address width value branch ih =>
    intro moment hm
    rcases List.mem_cons.mp hm with rfl | hrest
    · exact h.1
    · exact ih _ (h.2 _) _ moment hrest
  | emit out rest ih =>
    intro moment hm
    rcases List.mem_cons.mp hm with rfl | hrest
    · exact h.1
    · exact ih h.2 bus moment hrest

theorem Within.remarks_run (h : program.Within scope post) (bus : β) :
    ∀ out ∈ (program.run bus).remarks, scope.remarks out := by
  intro out hout
  rw [Program.remarks_run] at hout
  obtain ⟨moment, hm, hremark⟩ := List.mem_filterMap.mp hout
  have hallowed := h.history_run bus moment hm
  cases moment with
  | remark o =>
    injection hremark with ho
    exact ho ▸ hallowed
  | read => cases hremark
  | write => cases hremark

/-- A program that may not remark anything is silent. -/
theorem Within.remarks_eq_nil (h : program.Within scope post)
    (hsilent : ∀ out, ¬scope.remarks out) (bus : β) : (program.run bus).remarks = [] :=
  List.eq_nil_iff_forall_not_mem.mpr fun out hout => hsilent out (h.remarks_run bus out hout)

end Run

end Program

namespace Attempt

variable {ω α γ : Type} {scope : Scope ω}

/-- Every branch of an attempt keeps to `scope`, and what is got has `post`. -/
def Within (scope : Scope ω) (post : α → Prop) (attempt : Attempt ω α) : Prop :=
  attempt.run.Within scope fun answer => ∀ value, answer = .ok value → post value

theorem within_pure {post : α → Prop} {value : α} (h : post value) :
    Within scope post (pure value : Attempt ω α) := by
  intro got hgot
  injection hgot with hvalue
  exact hvalue ▸ h

theorem within_bind {mid : α → Prop} {post : γ → Prop} {first : Attempt ω α}
    {next : α → Attempt ω γ} (hfirst : first.Within scope mid)
    (hnext : ∀ value, mid value → (next value).Within scope post) :
    (first >>= next).Within scope post := by
  refine Program.within_bind hfirst fun answer hmid => ?_
  cases answer with
  | ok value => exact hnext value (hmid value rfl)
  | error cause => intro got hgot; cases hgot

theorem within_readByte {address : Address} (h : scope.reads address .byte) :
    (readByte address : Attempt ω UInt8).Within scope fun _ => True := by
  have hread : (read address .byte : Attempt ω UInt16).Within scope fun _ => True :=
    ⟨h, fun _ _ _ => trivial⟩
  exact within_bind hread fun _ _ => within_pure trivial

theorem within_readWord {address : Address} (h : scope.reads address .word) :
    (readWord address : Attempt ω UInt16).Within scope fun _ => True :=
  ⟨h, fun _ _ _ => trivial⟩

theorem within_writeWord {address : Address} {value : UInt16}
    (h : scope.writes address .word value) :
    (writeWord address value : Attempt ω Unit).Within scope fun _ => True :=
  ⟨h, fun _ _ _ => trivial⟩

theorem within_writeByte {address : Address} {value : UInt8}
    (h : scope.writes address .byte value.toUInt16) :
    (writeByte address value : Attempt ω Unit).Within scope fun _ => True :=
  ⟨h, fun _ _ _ => trivial⟩

end Attempt

end InputBridge
