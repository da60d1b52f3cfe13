import InputBridge.Poller
import InputBridge.Proofs.Session.BringUp
import InputBridge.Proofs.Session.Sinks

/-!
# A poller is its session

A client starts and stops a poller, the worker looks at the flag and makes its turns, and
others change the bus, in any order. To stop is not one step: the flag is cleared, and the
client waits while the worker finishes the turn it is in and looks at the flag once more;
`Driven` is a poller with this waiting. `stop_eq` says that `Poller.stop` is these steps put
together.

Whatever happens, the poller is never more than its session in somebody's hands: `Holds`
says in whose. `effect` is what a move does to the session, if it is driven directly. One
move keeps the two together (`holds_move`), and so does a run (`holds_moves`).
`poller_refines_session` is the contract that follows.
-/

namespace InputBridge

/-- A session counts its ticks, however it is driven. -/
theorem Session.ticks_steps {β σ : Type} [RegisterBus β] [EventSink σ] :
    ∀ (run : List (Session.Step β)) (session : Session β σ),
      (session.steps run).2.stats.ticks =
        session.stats.ticks + run.countP Session.Step.isTick
  | [], _ => rfl
  | next :: rest, session => by
    rw [Session.steps_cons, ticks_steps rest]
    cases next with
    | start =>
      have hstats : (session.step .start).2.stats = session.stats := (start_rest session).2
      rw [hstats]
      rfl
    | tick =>
      have hticks : (session.step .tick).2.stats.ticks = session.stats.ticks + 1 := rfl
      rw [hticks, List.countP_cons_of_pos rfl]
      omega
    | change f => rfl

/-! ## Moves -/

/-- What may happen to a poller. Nothing breaks down: a turn is a tick if it is due, and a
sleep otherwise. -/
inductive Move (β : Type) where
  /-- The client starts the poller. -/
  | start
  /-- The client stops the poller: the flag is cleared, and the client waits. -/
  | stop
  /-- The worker has ended, and the client gets the session back. -/
  | join
  /-- The worker looks at the flag. -/
  | look
  /-- The worker makes its turn. -/
  | turn (due : Bool)
  /-- The bus changes from outside. -/
  | change (f : β → β)

/-- The turn of a worker: a tick, if one is due. -/
def turnOf (due : Bool) : Turn := if due then .tick none else .sleep

/-- A worker whose bus was changed from outside. -/
def Worker.changeBus {β σ : Type} (f : β → β) : Worker β σ → Worker β σ
  | .looking session => .looking { session with bus := f session.bus }
  | .turning session => .turning { session with bus := f session.bus }
  | .broken bus sink => .broken (f bus) sink

/-- A poller whose bus was changed from outside, wherever it is. -/
def Poller.changeBus {β σ : Type} (f : β → β) (poller : Poller β σ) : Poller β σ :=
  { poller with
    worker := poller.worker.map (Worker.changeBus f)
    session := poller.session.map fun session => { session with bus := f session.bus } }

/-- A poller in use. -/
structure Driven (β σ : Type) where
  poller : Poller β σ
  /-- Does the client wait for the worker to end? -/
  waiting : Bool := false

namespace Driven

variable {β σ : Type} [RegisterBus β] [EventSink σ]

/-- One move. What is not possible does not happen: a client that waits makes no other
call, and the call returns when the worker is through with its turn. -/
def move (driven : Driven β σ) : Move β → Driven β σ
  | .start =>
    if driven.waiting then driven else { driven with poller := driven.poller.start.value.2 }
  | .stop =>
    if driven.poller.isRunning then ⟨{ driven.poller with flag := false }, true⟩ else driven
  | .join =>
    match driven.waiting, driven.poller.worker with
    | true, some (.looking _) => ⟨(driven.poller.stop .sleep).value.2, false⟩
    | _, _ => driven
  | .look => { driven with poller := driven.poller.look }
  | .turn due => { driven with poller := (driven.poller.turn (turnOf due)).value.1 }
  | .change f => { driven with poller := driven.poller.changeBus f }

/-- Moves one after the other. -/
def moves (driven : Driven β σ) (run : List (Move β)) : Driven β σ := run.foldl move driven

/-- What a move does to the session. -/
def effect (driven : Driven β σ) : Move β → List (Session.Step β)
  | .start => if driven.poller.isRunning then [] else [.start]
  | .turn due =>
    match driven.poller.worker with
    | some (.turning _) => if due then [.tick] else []
    | _ => []
  | .change f => [.change f]
  | .stop | .join | .look => []

/-- What moves do to the session, one after the other. -/
def effects (driven : Driven β σ) : List (Move β) → List (Session.Step β)
  | [] => []
  | next :: rest => driven.effect next ++ (driven.move next).effects rest

/-! ## Who has the session -/

/-- The session is in the hands of the poller, which is stopped and no more than that, or
in those of its one worker, who is about to look at the flag or about to make a turn. A
worker is told to go on unless the client waits for it, and its session is ready. -/
inductive Holds (config : Config) (session : Session β σ) : Driven β σ → Prop where
  | stopped : Holds config session ⟨.ofSession session config, false⟩
  | looking (waiting : Bool) (ready : session.ready = true) :
    Holds config session
      ⟨{ Poller.ofSession session config with
          flag := !waiting, worker := some (.looking session), session := none }, waiting⟩
  | turning (waiting : Bool) (ready : session.ready = true) :
    Holds config session
      ⟨{ Poller.ofSession session config with
          flag := !waiting, worker := some (.turning session), session := none }, waiting⟩

/-- The turn of a worker: its session ticks if a tick is due. -/
theorem turn_turning (session : Session β σ) (due : Bool) :
    ((Worker.turning session).turn (turnOf due)).value.1 =
      .looking (session.steps (if due = true then [.tick] else [])).2 := by
  cases due with
  | false => rfl
  | true =>
    show ((Worker.turning session).turn (.tick none)).value.1 = .looking session.tick.value
    simp only [Worker.turn, session.tickWithin_none]

omit [EventSink σ] in
/-- A start of a stopped poller is a start of its session, which then goes to a worker if
it is ready and stays if it is not. -/
theorem start_stopped (config : Config) (session : Session β σ) :
    (Poller.ofSession session config).start.value.1 = session.start.value.1 ∧
      Holds config session.start.value.2
        ⟨(Poller.ofSession session config).start.value.2, false⟩ := by
  have hready : session.start.value.1 = .ok () → session.start.value.2.ready = true :=
    Session.ready_of_start_ok
  unfold Poller.start Poller.ofSession
  dsimp only
  generalize session.start.value = result at hready ⊢
  obtain ⟨answer, after⟩ := result
  cases answer with
  | ok _ => exact ⟨rfl, .looking false (hready rfl)⟩
  | error problem => exact ⟨rfl, .stopped⟩

theorem holds_move {config : Config} {session : Session β σ} {driven : Driven β σ}
    (h : Holds config session driven) (next : Move β) :
    Holds config (session.steps (driven.effect next)).2 (driven.move next) := by
  cases next with
  | start =>
    cases h with
    | stopped => exact (start_stopped config session).2
    | looking waiting hready => cases waiting <;> exact .looking _ hready
    | turning waiting hready => cases waiting <;> exact .turning _ hready
  | stop =>
    cases h with
    | stopped => exact .stopped
    | looking waiting hready => exact .looking true hready
    | turning waiting hready => exact .turning true hready
  | join =>
    cases h with
    | stopped => exact .stopped
    | looking waiting hready =>
      cases waiting with
      | false => exact .looking false hready
      | true => exact .stopped
    | turning waiting hready => cases waiting <;> exact .turning _ hready
  | look =>
    cases h with
    | stopped => exact .stopped
    | looking waiting hready =>
      cases waiting with
      | false => exact .turning false hready
      | true => exact .looking true hready
    | turning waiting hready => exact .turning waiting hready
  | turn due =>
    cases h with
    | stopped => exact .stopped
    | looking waiting hready => exact .looking waiting hready
    | turning waiting hready =>
      have hready' : (session.steps (if due = true then [.tick] else [])).2.ready = true :=
        Session.ready_steps _ hready
      unfold move Poller.turn
      dsimp only
      rw [turn_turning]
      exact .looking waiting hready'
  | change f =>
    cases h with
    | stopped => exact .stopped
    | looking waiting hready => exact .looking waiting hready
    | turning waiting hready => exact .turning waiting hready

theorem holds_moves {config : Config} : ∀ (run : List (Move β)) {session : Session β σ}
    {driven : Driven β σ}, Holds config session driven →
      Holds config (session.steps (driven.effects run)).2 (driven.moves run)
  | [], _, _, h => h
  | next :: rest, session, driven, h => by
    rw [effects, Session.steps_append]
    exact holds_moves rest (holds_move h next)

/-! ## Stopping -/

theorem stop_running {config : Config} {session : Session β σ} {driven : Driven β σ}
    (h : Holds config session driven) (hrunning : driven.poller.isRunning = true) (due : Bool) :
    (driven.poller.stop (turnOf due)).value =
      (.ok (some (session.steps (driven.effect (.turn due))).2.stats),
        Poller.ofSession (session.steps (driven.effect (.turn due))).2 config) := by
  cases h with
  | stopped => exact nomatch hrunning
  | looking waiting hready => rfl
  | turning waiting hready =>
    unfold Poller.stop effect
    dsimp only
    rw [turn_turning]
    rfl

/-- To stop is to clear the flag, to let the worker make the turn it may have, to let it
find the flag cleared, and to take the session back. -/
theorem stop_eq {config : Config} {session : Session β σ} {driven : Driven β σ}
    (h : Holds config session driven) (hrunning : driven.poller.isRunning = true) (due : Bool) :
    driven.moves [.stop, .turn due, .look, .join] =
      ⟨(driven.poller.stop (turnOf due)).value.2, false⟩ := by
  rw [stop_running h hrunning]
  cases h with
  | stopped => exact nomatch hrunning
  | looking waiting hready => rfl
  | turning waiting hready =>
    -- The turn is made with the flag cleared already.
    have hturned : (⟨{ Poller.ofSession session config with
          flag := false, worker := some (.turning session), session := none }, true⟩ :
        Driven β σ).move (.turn due) =
      ⟨{ Poller.ofSession session config with
          flag := false
          worker := some (.looking (session.steps (if due = true then [.tick] else [])).2)
          session := none }, true⟩ := by
      unfold move Poller.turn
      dsimp only
      rw [turn_turning]
    show ((Driven.move ⟨{ Poller.ofSession session config with
        flag := false, worker := some (.turning session), session := none }, true⟩
      (.turn due)).move .look).move .join = _
    rw [hturned]
    rfl

/-! ## The contract -/

/-- **A poller is its session.** After any moves of the client, the worker and the bus, the
session is in the hands of the poller or of its one worker, and it is what the same starts,
ticks and changes make of the session when it is driven directly. It has counted these
ticks, and once it was started it is started for good.

A poller that is stopped answers a start as its session does, a stop changes nothing, its
worker does not move, and the session that it hands back is this one. A poller that runs
refuses to be started and is as it was; it is stopped, in one step or move by move, with the
counters of the session after the turn that the worker may still have to make, and hands
back that session. While its client waits, the worker takes up no other turn. -/
theorem poller_refines_session (session : Session β σ) (config : Config) (run : List (Move β)) :
    let poller : Driven β σ := ⟨.ofSession session config, false⟩
    let driven := poller.moves run
    let direct := (session.steps (poller.effects run)).2
    Holds config direct driven ∧
      direct.stats.ticks =
        session.stats.ticks + (poller.effects run).countP Session.Step.isTick ∧
      (.ok () ∈ (session.steps (poller.effects run)).1 →
        direct.start.value = (.ok (), direct)) ∧
      (driven.poller.isRunning = false →
        driven.poller.start.value.1 = direct.start.value.1 ∧
          ∀ turn, (driven.poller.stop turn).value = (.ok none, driven.poller) ∧
            (driven.poller.handBack turn).value = .ok direct ∧
            driven.poller.look = driven.poller ∧
            (driven.poller.turn turn).value.1 = driven.poller) ∧
      (driven.poller.isRunning = true →
        driven.poller.start.value = (.error .alreadyRunning, driven.poller) ∧
          ∀ due,
            let ended := (direct.steps (driven.effect (.turn due))).2
            (driven.poller.stop (turnOf due)).value =
                (.ok (some ended.stats), .ofSession ended config) ∧
              driven.moves [.stop, .turn due, .look, .join] = ⟨.ofSession ended config, false⟩ ∧
              (driven.poller.handBack (turnOf due)).value = .ok ended) ∧
      (driven.waiting = true → driven.poller.look = driven.poller) := by
  intro poller driven direct
  have hholds : Holds config direct driven := holds_moves run .stopped
  refine ⟨hholds, Session.ticks_steps _ session, ?_, ?_, ?_, ?_⟩
  · exact fun hok => Session.start_of_ready (Session.ready_of_ok_mem _ hok)
  · intro hstopped
    generalize driven = reached at hholds hstopped
    cases hholds with
    | stopped => exact ⟨(start_stopped config direct).1, fun turn => ⟨rfl, rfl, rfl, rfl⟩⟩
    | looking => exact nomatch hstopped
    | turning => exact nomatch hstopped
  · intro hrunning
    refine ⟨?_, fun due => ?_⟩
    · generalize driven = reached at hholds hrunning
      cases hholds with
      | stopped => exact nomatch hrunning
      | looking => rfl
      | turning => rfl
    · have hstop := stop_running hholds hrunning due
      refine ⟨hstop, ?_, ?_⟩
      · rw [stop_eq hholds hrunning, hstop]
      · unfold Poller.handBack
        dsimp only
        rw [hstop]
        rfl
  · intro hwaiting
    generalize driven = reached at hholds hwaiting
    cases hholds with
    | stopped => rfl
    | looking waiting => cases waiting with
      | false => exact nomatch hwaiting
      | true => rfl
    | turning => rfl

-- A turn that was taken up before the flag was cleared is still made, and no other.
example : ((⟨.new {} {} {}, false⟩ : Driven MemoryBus RecordingSink).moves
    [.start, .look, .turn true, .look, .stop, .turn true, .look, .turn true,
      .join]).poller.session.map (fun session => session.stats.ticks) = some 2 := by decide

end Driven

end InputBridge
