import InputBridge.Proofs.Bus.History

/-!
# What a program says, and what it met

What a program says on a branch has to do with the accesses that failed on it and with the value
that it ends in: who reports a failure has failed, and because of an access that did. `Tells
causes post` says of every branch that its remarks, the addresses of its failed accesses and its
value are related by `post`, as long as no access fails for another reason than one of `causes`.
It composes along `bind` with the lists put together (`Tells.bind`), and holds of every run on a
bus that fails for these causes only (`Tells.run`).

An attempt is `Silent` if it says nothing and gives up just if an access fails.
-/

namespace InputBridge

variable {ω ω' α γ β : Type} {causes : BusError → Prop}

/-- The address of an access that failed, if the moment is one. -/
def Moment.failedAt? : Moment ω → Option Address
  | .read address _ (.error _) => some address
  | .write address _ _ (.error _) => some address
  | _ => none

namespace Program

/-- On every branch on which accesses fail for `causes` only, the remarks, the addresses of the
accesses that fail and the value satisfy `post`. -/
def Tells (causes : BusError → Prop) :
    Program ω α → (List ω → List Address → α → Prop) → Prop
  | .done value, post => post [] [] value
  | .read address _ branch, post =>
    (∀ word, (branch (.ok word)).Tells causes post) ∧
      ∀ cause, causes cause →
        (branch (.error cause)).Tells causes fun outs failed => post outs (address :: failed)
  | .write address _ _ branch, post =>
    (branch (.ok ())).Tells causes post ∧
      ∀ cause, causes cause →
        (branch (.error cause)).Tells causes fun outs failed => post outs (address :: failed)
  | .emit out rest, post => rest.Tells causes fun outs => post (out :: outs)

theorem Tells.imp {program : Program ω α} {post weaker : List ω → List Address → α → Prop}
    (h : program.Tells causes post)
    (hpost : ∀ outs failed value, post outs failed value → weaker outs failed value) :
    program.Tells causes weaker := by
  induction program generalizing post weaker with
  | done value => exact hpost [] [] value h
  | read address width branch ih =>
    exact ⟨fun word => ih _ (h.1 word) hpost, fun cause hcause =>
      ih _ (h.2 cause hcause) fun outs failed => hpost outs (address :: failed)⟩
  | write address width value branch ih =>
    exact ⟨ih _ h.1 hpost, fun cause hcause =>
      ih _ (h.2 cause hcause) fun outs failed => hpost outs (address :: failed)⟩
  | emit out rest ih => exact ih h fun outs => hpost (out :: outs)

theorem tells_remarks : ∀ outs : List ω,
    (remarks outs).Tells causes fun said failed _ => said = outs ∧ failed = []
  | [] => ⟨rfl, rfl⟩
  | out :: rest => (tells_remarks rest).imp fun _ _ _ h => ⟨congrArg (List.cons out) h.1, h.2⟩

/-- What the second program says, and what it meets, follows what the first one does. -/
theorem Tells.bind {first : Program ω α} {next : α → Program ω γ}
    {mid : List ω → List Address → α → Prop} {post : List ω → List Address → γ → Prop}
    (hfirst : first.Tells causes mid)
    (hnext : ∀ outs failed value, mid outs failed value → (next value).Tells causes
      fun more further => post (outs ++ more) (failed ++ further)) :
    (first >>= next).Tells causes post := by
  show (first.bind next).Tells causes post
  induction first generalizing mid post with
  | done value => exact hnext [] [] value hfirst
  | read address width branch ih =>
    exact ⟨fun word => ih _ (hfirst.1 word) hnext, fun cause hcause =>
      ih _ (hfirst.2 cause hcause) fun outs failed => hnext outs (address :: failed)⟩
  | write address width value branch ih =>
    exact ⟨ih _ hfirst.1 hnext, fun cause hcause =>
      ih _ (hfirst.2 cause hcause) fun outs failed => hnext outs (address :: failed)⟩
  | emit out rest ih => exact ih hfirst fun outs => hnext (out :: outs)

theorem Tells.mapRemarks {program : Program ω α} {f : ω → ω'}
    {post : List ω' → List Address → α → Prop}
    (h : program.Tells causes fun outs => post (outs.map f)) :
    (program.mapRemarks f).Tells causes post := by
  induction program generalizing post with
  | done value => exact h
  | read address width branch ih =>
    exact ⟨fun word => ih _ (h.1 word), fun cause hcause => ih _ (h.2 cause hcause)⟩
  | write address width value branch ih =>
    exact ⟨ih _ h.1, fun cause hcause => ih _ (h.2 cause hcause)⟩
  | emit out rest ih => exact ih h

/-- A run on a bus whose accesses fail for these causes only. -/
theorem Tells.run [RegisterBus β] {program : Program ω α}
    {post : List ω → List Address → α → Prop} (h : program.Tells causes post)
    (hread : ∀ address width (bus : β) cause,
      (RegisterBus.read address width bus).1 = .error cause → causes cause)
    (hwrite : ∀ address width value (bus : β) cause,
      (RegisterBus.write address width value bus).1 = .error cause → causes cause) (bus : β) :
    post (program.run bus).remarks ((program.history bus).filterMap Moment.failedAt?)
      (program.run bus).value := by
  induction program generalizing post bus with
  | done value => exact h
  | read address width branch ih =>
    unfold Program.run history
    have hcause := hread address width bus
    rcases hanswer : RegisterBus.read address width bus with ⟨answer, left⟩
    rw [hanswer] at hcause
    cases answer with
    | ok word => exact ih _ (h.1 word) left
    | error cause => exact ih _ (h.2 cause (hcause cause rfl)) left
  | write address width value branch ih =>
    unfold Program.run history
    have hcause := hwrite address width value bus
    rcases hanswer : RegisterBus.write address width value bus with ⟨answer, left⟩
    rw [hanswer] at hcause
    cases answer with
    | ok => exact ih _ h.1 left
    | error cause => exact ih _ (h.2 cause (hcause cause rfl)) left
  | emit out rest ih => exact ih h bus

end Program

namespace Attempt

/-- What an attempt comes to that says nothing and gives up just if an access fails: it has the
cause from the access, and the address is one of `region`. -/
structure Quietly (causes : BusError → Prop) (region : Address → Prop) (outs : List ω)
    (failed : List Address) (answer : Except BusError α) : Prop where
  outs : outs = []
  region : ∀ address ∈ failed, region address
  granted : ∀ value, answer = .ok value → failed = []
  refused : ∀ cause, answer = .error cause → causes cause ∧ failed ≠ []

/-- On every branch the attempt says nothing and gives up just if an access fails. -/
def Silent (causes : BusError → Prop) (region : Address → Prop) (attempt : Attempt ω α) : Prop :=
  attempt.run.Tells causes (Quietly causes region)

variable {region : Address → Prop}

theorem silent_pure (value : α) : (pure value : Attempt ω α).Silent causes region :=
  ⟨rfl, fun _ hin => (nomatch hin), fun _ _ => rfl, fun _ h => nomatch h⟩

theorem Silent.bind {first : Attempt ω α} {next : α → Attempt ω γ}
    (hfirst : first.Silent causes region) (hnext : ∀ value, (next value).Silent causes region) :
    (first >>= next).Silent causes region := by
  refine Program.Tells.bind hfirst fun outs failed answer hanswer => ?_
  obtain rfl := hanswer.outs
  cases answer with
  | ok value =>
    obtain rfl := hanswer.granted value rfl
    exact hnext value
  | error cause =>
    -- Nothing more is done, and what failed is what failed in the first attempt.
    show Quietly causes region ([] ++ []) (failed ++ []) (.error cause : Except BusError γ)
    rw [List.append_nil, List.append_nil]
    exact ⟨rfl, hanswer.region, fun _ h => (nomatch h), fun other hother =>
      Except.error.inj hother ▸ hanswer.refused cause rfl⟩

theorem silent_read {address : Address} (h : region address) (width : Width) :
    (read address width : Attempt ω UInt16).Silent causes region := by
  refine ⟨fun _ => silent_pure _, fun cause hcause => ⟨rfl, ?_, fun _ h => (nomatch h), ?_⟩⟩
  · exact fun other hin => List.mem_singleton.mp hin ▸ h
  · exact fun other hother => ⟨Except.error.inj hother ▸ hcause, List.cons_ne_nil _ _⟩

theorem silent_write {address : Address} (h : region address) (width : Width) (value : UInt16) :
    (write address width value : Attempt ω Unit).Silent causes region := by
  refine ⟨silent_pure _, fun cause hcause => ⟨rfl, ?_, fun _ h => (nomatch h), ?_⟩⟩
  · exact fun other hin => List.mem_singleton.mp hin ▸ h
  · exact fun other hother => ⟨Except.error.inj hother ▸ hcause, List.cons_ne_nil _ _⟩

theorem silent_readByte {address : Address} (h : region address) :
    (readByte address : Attempt ω UInt8).Silent causes region :=
  (silent_read h .byte).bind fun word => silent_pure word.toUInt8

end Attempt

end InputBridge
