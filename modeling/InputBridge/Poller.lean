import InputBridge.Session

/-!
# Pollers

A poller hands its session to a worker that ticks at a cadence until it is told
to stop, and then takes the session back. The two share a flag: the worker looks
at it before each turn of its loop, and ends when it finds it cleared.

Time is not part of the model. A turn is a tick or a sleep, as the clock decides,
and the clock is whoever takes the steps: `look` and `turn` are the steps of the
worker, `start`, `stop`, `handBack` and `abandon` those of its client, and a run
is any sequence of them. A tick may be cut off by a failure within the worker, and
the session is then lost.
-/

namespace InputBridge

/-- What the worker does in one turn of its loop. -/
inductive Turn where
  /-- One tick, cut off after so many accesses if there is a limit. -/
  | tick (allowance : Option Nat)
  /-- Wait for the next look at the clock. -/
  | sleep

/-- A worker. -/
inductive Worker (β σ : Type) where
  /-- It is about to look at the flag. -/
  | looking (session : Session β σ)
  /-- It found the flag set and has a turn to make. -/
  | turning (session : Session β σ)
  /-- It broke down and left the bus and the sink as they are. -/
  | broken (bus : β) (sink : σ)

namespace Worker

variable {β σ : Type}

/-- The bus and the sink in the hands of a worker. -/
def surroundings : Worker β σ → β × σ
  | .looking session | .turning session => (session.bus, session.sink)
  | .broken bus sink => (bus, sink)

/-- The worker looks at the flag. -/
def look (flag : Bool) : Worker β σ → Worker β σ
  | .looking session => if flag then .turning session else .looking session
  | worker => worker

/-- The worker makes its turn, if it has one. Gives the accesses still allowed. -/
def turn [RegisterBus β] [EventSink σ] (turn : Turn) :
    Worker β σ → Logged (Worker β σ × Option Nat)
  | .turning session =>
    match turn with
    | .sleep => ⟨(.looking session, none), []⟩
    | .tick allowance =>
      let ended := session.tickWithin allowance
      match ended.value with
      | .whole session allowance => ⟨(.looking session, allowance), ended.notes⟩
      | .cut bus sink => ⟨(.broken bus sink, none), ended.notes⟩
  | worker => ⟨(worker, none), []⟩

/-- What a worker leaves behind: the session, unless it broke down. -/
def remains : Worker β σ → Option (Session β σ)
  | .looking session | .turning session => some session
  | .broken _ _ => none

end Worker

/-- A session with or without a worker running it. -/
structure Poller (β σ : Type) where
  /-- Time from one tick to the next, in microseconds. -/
  interval : UInt64
  /-- Sleep between two looks at the clock, in microseconds. -/
  idleSleep : UInt64
  /-- The flag that keeps the worker going. -/
  flag : Bool := false
  worker : Option (Worker β σ) := none
  session : Option (Session β σ)

namespace Poller

variable {β σ : Type}

/-- A stopped poller for a session. -/
def ofSession (session : Session β σ) (config : Config) : Poller β σ where
  interval := config.pollInterval
  idleSleep := config.idleSleep
  session := some session

/-- A stopped poller for a new session. -/
def new (bus : β) (sink : σ) (config : Config) : Poller β σ :=
  ofSession (.new bus sink config) config

/-- Does a worker hold the session? -/
def isRunning (poller : Poller β σ) : Bool := poller.worker.isSome

/-! ## Steps of the worker -/

/-- The worker looks at the flag. -/
def look (poller : Poller β σ) : Poller β σ :=
  { poller with worker := poller.worker.map (Worker.look poller.flag) }

/-- The worker makes the turn it has, if any. Gives the accesses still allowed. -/
def turn [RegisterBus β] [EventSink σ] (turn : Turn) (poller : Poller β σ) :
    Logged (Poller β σ × Option Nat) :=
  match poller.worker with
  | none => ⟨(poller, none), []⟩
  | some worker =>
    let turned := worker.turn turn
    ⟨({ poller with worker := some turned.value.1 }, turned.value.2), turned.notes⟩

/-! ## Steps of the client -/

/-- Starts the session and hands it to a worker. A session that cannot be started
stays with the poller. -/
def start [RegisterBus β] (poller : Poller β σ) : Logged (Except BridgeError Unit × Poller β σ) :=
  match poller.worker, poller.session with
  | some _, _ => ⟨(.error .alreadyRunning, poller), []⟩
  | none, none => ⟨(.error .sessionLost, poller), []⟩
  | none, some session =>
    let started := session.start
    match started.value with
    | (.error problem, session) =>
      ⟨(.error problem, { poller with session := some session }), started.notes⟩
    | (.ok (), session) =>
      ⟨(.ok (), { poller with flag := true, worker := some (.looking session), session := none }),
        started.notes ++ [.pollerStarted poller.interval]⟩

/-- Clears the flag, waits for the worker and takes the session back. If the worker
has a turn to make, it makes `last` before it sees the flag cleared. Gives the
counters of the session, or nothing if there was no worker. -/
def stop [RegisterBus β] [EventSink σ] (last : Turn) (poller : Poller β σ) :
    Logged (Except BridgeError (Option Stats) × Poller β σ) :=
  match poller.worker with
  | none => ⟨(.ok none, poller), []⟩
  | some worker =>
    let ended := worker.turn last
    let stopped := { poller with flag := false, worker := none }
    match ended.value.1.remains with
    | none => ⟨(.error .workerPanicked, stopped), ended.notes ++ [.workerPanicked]⟩
    | some session =>
      ⟨(.ok (some session.stats), { stopped with session := some session }),
        ended.notes ++ [.pollerStopped session.stats.ticks session.stats.dropped]⟩

/-- Stops if need be and hands the session back, after which the poller is gone. -/
def handBack [RegisterBus β] [EventSink σ] (last : Turn) (poller : Poller β σ) :
    Logged (Except BridgeError (Session β σ)) :=
  let stopped := poller.stop last
  match stopped.value with
  | (.error problem, _) => ⟨.error problem, stopped.notes⟩
  | (.ok _, poller) =>
    match poller.session with
    | none => ⟨.error .sessionLost, stopped.notes⟩
    | some session => ⟨.ok session, stopped.notes⟩

/-- Lets the poller go. A worker that still runs is told to stop and waited for.
Gives the bus and the sink as the worker leaves them, if there was one. -/
def abandon [RegisterBus β] [EventSink σ] (last : Turn) (poller : Poller β σ) :
    Logged (Option (β × σ)) :=
  match poller.worker with
  | none => ⟨none, []⟩
  | some worker =>
    let ended := worker.turn last
    ⟨some ended.value.1.surroundings, .droppedWhileRunning :: ended.notes⟩

end Poller

end InputBridge
