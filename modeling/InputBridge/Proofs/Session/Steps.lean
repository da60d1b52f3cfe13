import InputBridge.Session

/-!
# Steps of a session

A session is driven from outside: it is started, ticked, and others may change its bus
in between. `Session.steps` is a run of such steps in any order, and
`Session.beforeTicks` are the sessions that it ticks; `Session.ticked` is a run of ticks
alone.
-/

namespace InputBridge

namespace Session

/-- What may happen to a session: a start, a tick, or a change of its bus from outside. -/
inductive Step (β : Type) where
  | start
  | tick
  | change (f : β → β)

/-- Is this step a tick? -/
def Step.isTick {β : Type} : Step β → Bool
  | .tick => true
  | _ => false

variable {β σ : Type} [RegisterBus β] [EventSink σ]

/-- Takes one step. A start has an answer. -/
def step (session : Session β σ) : Step β → Option (Except BridgeError Unit) × Session β σ
  | .start => (some session.start.value.1, session.start.value.2)
  | .tick => (none, session.tick.value)
  | .change f => (none, { session with bus := f session.bus })

/-- Takes steps one after the other, and gives the answers of the starts. -/
def steps (session : Session β σ) : List (Step β) → List (Except BridgeError Unit) × Session β σ
  | [] => ([], session)
  | next :: rest =>
    let (answer, session) := session.step next
    let (answers, session) := session.steps rest
    (answer.toList ++ answers, session)

theorem steps_cons (session : Session β σ) (next : Step β) (rest : List (Step β)) :
    session.steps (next :: rest) =
      ((session.step next).1.toList ++ ((session.step next).2.steps rest).1,
        ((session.step next).2.steps rest).2) := rfl

theorem steps_append : ∀ (earlier later : List (Step β)) (session : Session β σ),
    session.steps (earlier ++ later) =
      ((session.steps earlier).1 ++ ((session.steps earlier).2.steps later).1,
        ((session.steps earlier).2.steps later).2)
  | [], _, _ => rfl
  | next :: rest, later, session => by
    rw [List.cons_append, steps_cons, steps_cons, steps_append rest later, List.append_assoc]

/-- The sessions that a run ticks, each as it is right before its tick. -/
def beforeTicks (session : Session β σ) : List (Step β) → List (Session β σ)
  | [] => []
  | .tick :: rest => session :: (session.step .tick).2.beforeTicks rest
  | next :: rest => (session.step next).2.beforeTicks rest

/-- A session after so many ticks. -/
def ticked : Nat → Session β σ → Session β σ
  | 0, session => session
  | count + 1, session => ticked count session.tick.value

end Session

end InputBridge
