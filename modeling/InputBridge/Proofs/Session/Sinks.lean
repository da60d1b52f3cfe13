import InputBridge.Proofs.Event.Delivery
import InputBridge.Proofs.Session.Steps

/-!
# Sessions and their sinks

Whatever a sink does with the events it is sent, nothing else depends on it.
`SameButSink` relates two sessions that differ in their sinks and in how many events
these took. One step keeps it (`sameButSink_step`) and attempts the same events, so a
whole run does (`sink_independence`).

What a run sends is seen by tapping the sink of the session: `steps_tapped` says that
this changes nothing, and that what is sent is what is attempted.
-/

namespace InputBridge

namespace Session

/-! ## Two sinks -/

variable {β σ σ' : Type} [RegisterBus β] [EventSink σ] [EventSink σ']

/-- The same session with another sink and other counters. -/
def withSink (session : Session β σ) (sink : σ') (stats : Stats) : Session β σ' :=
  { config := session.config
    bus := session.bus
    sink
    devices := session.devices
    stats
    ready := session.ready }

/-- Two sessions that differ in their sinks, and in how many of the events handled so
far their sinks took. -/
structure SameButSink (session : Session β σ) (session' : Session β σ') : Prop where
  config : session.config = session'.config
  bus : session.bus = session'.bus
  devices : session.devices = session'.devices
  ready : session.ready = session'.ready
  ticks : session.stats.ticks = session'.stats.ticks
  failures : session.stats.failures = session'.stats.failures
  handled : session.stats.delivered + session.stats.dropped =
    session'.stats.delivered + session'.stats.dropped

section Start

omit [EventSink σ] [EventSink σ']

/-- A start leaves the sink and the counters alone. -/
theorem start_rest (session : Session β σ) :
    session.start.value.2.sink = session.sink ∧ session.start.value.2.stats = session.stats := by
  unfold start
  split
  next => exact ⟨rfl, rfl⟩
  next =>
    split
    next => exact ⟨rfl, rfl⟩
    next =>
      split
      next => exact ⟨rfl, rfl⟩
      next =>
        dsimp only
        split <;> exact ⟨rfl, rfl⟩

/-- A start does not depend on the sink and the counters. -/
theorem start_withSink (session : Session β σ) (sink : σ') (stats : Stats) :
    (session.withSink sink stats).start.value =
      (session.start.value.1, session.start.value.2.withSink sink stats) := by
  obtain ⟨config, bus, _, devices, _, ready⟩ := session
  unfold start withSink
  -- Every branch is decided by the configuration, the bus and the devices.
  cases ready with
  | true => rfl
  | false =>
    dsimp only
    rw [if_neg Bool.false_ne_true, if_neg Bool.false_ne_true]
    cases config.validate with
    | error problem => rfl
    | ok _ =>
      dsimp only
      obtain ⟨answer, bus⟩ := RegisterBus.connect bus
      cases answer with
      | error cause => rfl
      | ok _ =>
        dsimp only
        by_cases hactive : (devices.setUp.run bus).value.active = []
        · rw [if_pos hactive, if_pos hactive]
        · rw [if_neg hactive, if_neg hactive]

omit [RegisterBus β] in
theorem SameButSink.eq_withSink {session : Session β σ} {session' : Session β σ'}
    (h : SameButSink session session') :
    session' = session.withSink session'.sink session'.stats := by
  unfold withSink
  rw [h.config, h.bus, h.devices, h.ready]

theorem sameButSink_start {session : Session β σ} {session' : Session β σ'}
    (h : SameButSink session session') :
    session.start.value.1 = session'.start.value.1 ∧
      SameButSink session.start.value.2 session'.start.value.2 := by
  obtain ⟨_, hstats⟩ := start_rest session
  rw [h.eq_withSink, start_withSink]
  refine ⟨rfl, rfl, rfl, rfl, rfl, ?_, ?_, ?_⟩
  · rw [hstats]; exact h.ticks
  · rw [hstats]; exact h.failures
  · rw [hstats]; exact h.handled

end Start

/-- A tick sends the attempts of its scan to the sink, and nothing but the two counters
of events depends on what the sink does with them. -/
theorem sameButSink_tick {session : Session β σ} {session' : Session β σ'}
    (h : SameButSink session session') :
    session.attempts = session'.attempts ∧
      SameButSink session.tick.value session'.tick.value := by
  -- The scan is over before anything is delivered.
  have hran : session.devices.scan.run session.bus = session'.devices.scan.run session'.bus := by
    rw [h.devices, h.bus]
  have hsignals : session.signals = session'.signals := congrArg Program.Run.remarks hran
  refine ⟨congrArg (List.filterMap Signal.event?) hsignals, ?_⟩
  have hcount := deliver_count session.signals session.sink
  have hcount' := deliver_count session'.signals session'.sink
  rw [← hsignals] at hcount'
  constructor
  case config => exact h.config
  case bus => exact congrArg Program.Run.bus hran
  case devices => exact congrArg (fun ran => ran.value.1) hran
  case ready => exact h.ready
  case ticks => exact congrArg (· + 1) h.ticks
  case failures =>
    have hfailed := congrArg (fun ran => ran.value.2) hran
    have hcounts : session.stats.failures.zipWith (fun count failed => count + failed.toNat)
          (session.devices.scan.run session.bus).value.2 =
        session'.stats.failures.zipWith (fun count failed => count + failed.toNat)
          (session'.devices.scan.run session'.bus).value.2 := by
      rw [h.failures, hfailed]
    exact hcounts
  case handled =>
    show session.stats.delivered + (deliver session.signals session.sink).delivered +
        (session.stats.dropped + (deliver session.signals session.sink).dropped) =
      session'.stats.delivered + (deliver session'.signals session'.sink).delivered +
        (session'.stats.dropped + (deliver session'.signals session'.sink).dropped)
    have hhandled := h.handled
    rw [← hsignals]
    omega

theorem sameButSink_step {session : Session β σ} {session' : Session β σ'}
    (h : SameButSink session session') (next : Step β) :
    (session.step next).1 = (session'.step next).1 ∧
      SameButSink (session.step next).2 (session'.step next).2 := by
  cases next with
  | start =>
    obtain ⟨hanswer, hafter⟩ := sameButSink_start h
    exact ⟨congrArg some hanswer, hafter⟩
  | tick => exact ⟨rfl, (sameButSink_tick h).2⟩
  | change f => exact ⟨rfl, { h with bus := congrArg f h.bus }⟩

theorem sameButSink_steps : ∀ (run : List (Step β)) {session : Session β σ}
    {session' : Session β σ'}, SameButSink session session' →
      (session.steps run).1 = (session'.steps run).1 ∧
        SameButSink (session.steps run).2 (session'.steps run).2
  | [], _, _, h => ⟨rfl, h⟩
  | next :: rest, session, session', h => by
    obtain ⟨hanswer, hstep⟩ := sameButSink_step h next
    obtain ⟨hanswers, hrest⟩ := sameButSink_steps rest hstep
    rw [steps_cons, steps_cons, hanswer, hanswers]
    exact ⟨rfl, hrest⟩

/-! ## What is sent -/

/-- The events that a step attempts. -/
def attemptsOf (session : Session β σ) : Step β → List Event
  | .tick => session.attempts
  | _ => []

/-- The events that steps attempt, one after the other. -/
def attemptsOver (session : Session β σ) : List (Step β) → List Event
  | [] => []
  | next :: rest => session.attemptsOf next ++ (session.step next).2.attemptsOver rest

/-- The session with its sink tapped. -/
def tapped (session : Session β σ) (sent : List Event) : Session β (Tapped σ) :=
  session.withSink ⟨session.sink, sent⟩ session.stats

/-- Every event that steps send to the sink of a session, oldest first. -/
def sentOver (session : Session β σ) (run : List (Step β)) : List Event :=
  ((session.tapped []).steps run).2.sink.sent

theorem step_tapped (session : Session β σ) (sent : List Event) (next : Step β) :
    (session.tapped sent).step next =
      ((session.step next).1, (session.step next).2.tapped (sent ++ session.attemptsOf next)) := by
  cases next with
  | start =>
    obtain ⟨hsink, hstats⟩ := start_rest session
    unfold tapped step attemptsOf
    rw [start_withSink, List.append_nil, hsink, hstats]
  | tick =>
    unfold tapped step attemptsOf attempts signals withSink tick
    dsimp only
    rw [deliver_tapped]
    rfl
  | change f =>
    unfold tapped step attemptsOf
    rw [List.append_nil]
    rfl

/-- Tapping the sink changes nothing, and what it was sent is what was attempted. -/
theorem steps_tapped : ∀ (run : List (Step β)) (session : Session β σ) (sent : List Event),
    (session.tapped sent).steps run =
      ((session.steps run).1, (session.steps run).2.tapped (sent ++ session.attemptsOver run))
  | [], session, sent => by rw [attemptsOver, List.append_nil]; rfl
  | next :: rest, session, sent => by
    rw [steps_cons, steps_cons, step_tapped, steps_tapped rest, attemptsOver, List.append_assoc]

theorem sentOver_eq (session : Session β σ) (run : List (Step β)) :
    session.sentOver run = session.attemptsOver run := by
  unfold sentOver
  rw [steps_tapped]
  exact List.nil_append _

theorem attemptsOver_eq : ∀ (run : List (Step β)) {session : Session β σ}
    {session' : Session β σ'}, SameButSink session session' →
      session.attemptsOver run = session'.attemptsOver run
  | [], _, _, _ => rfl
  | next :: rest, session, session', h => by
    have hattempts : session.attemptsOf next = session'.attemptsOf next := by
      cases next with
      | start => rfl
      | tick => exact (sameButSink_tick h).1
      | change f => rfl
    rw [attemptsOver, attemptsOver, hattempts, attemptsOver_eq rest (sameButSink_step h next).2]

/-- **The sink changes nothing.** Two new sessions with the same configuration on the
same bus, driven by the same starts, ticks and changes of the bus, send the same events
to their sinks, whatever these take; their starts are answered the same, and they end with
the same bus, devices, ticks and failures, and the same number of events handled. -/
theorem sink_independence (bus : β) (config : Config) (sink : σ) (sink' : σ')
    (run : List (Step β)) :
    let session := Session.new bus sink config
    let session' := Session.new bus sink' config
    session.sentOver run = session'.sentOver run ∧
      (session.steps run).1 = (session'.steps run).1 ∧
      SameButSink (session.steps run).2 (session'.steps run).2 := by
  intro session session'
  have h : SameButSink session session' := ⟨rfl, rfl, rfl, rfl, rfl, rfl, rfl⟩
  rw [sentOver_eq, sentOver_eq]
  exact ⟨attemptsOver_eq run h, sameButSink_steps run h⟩

end Session

end InputBridge
