import InputBridge.Proofs.Event.Verdicts
import InputBridge.Proofs.Session.Sinks
import InputBridge.Proofs.Session.Tick

/-!
# The accounts of a session

A session with a recording sink is driven by steps, and in between the sink may be told
to reject the next few events. `ticksOver` are the sessions that such a run ticks, each
as it is right before its tick. Everything that the run leaves can be counted on them:
`Accounts` says that what is recorded, the two counters of events, the ticks and the
failures have grown by what these ticks sent and which of their polls failed. One tick
settles its own accounts (`accounts_tick`), what is no tick has none (`accounts_quiet`),
and they add up over a run (`accounts_acts`). `groups_and_accounts` is what this comes
to for a new session.
-/

namespace InputBridge

/-- What may happen to a session with a recording sink: a step, or the sink is told to
reject the next `count` events. -/
inductive Act (β : Type) where
  | step (next : Session.Step β)
  | reject (count : Nat)

/-- Is this act a tick? -/
def Act.isTick {β : Type} : Act β → Bool
  | .step next => next.isTick
  | .reject _ => false

theorem PerDevice.get_zipWith {α γ δ : Type} (f : α → γ → δ) (left : PerDevice α)
    (right : PerDevice γ) (device : Device) :
    (left.zipWith f right).get device = f (left.get device) (right.get device) := by
  cases device <;> rfl

namespace Session

variable {β : Type} [RegisterBus β]

/-- What the next tick sends, each event with the answer of the sink. -/
def sends (session : Session β RecordingSink) : List Verdict :=
  (sendAll session.attempts session.sink).1

/-- Takes one act. -/
def act (session : Session β RecordingSink) : Act β → Session β RecordingSink
  | .step next => (session.step next).2
  | .reject count => { session with sink := session.sink.failNext count }

/-- Takes acts one after the other. -/
def acts (session : Session β RecordingSink) (run : List (Act β)) : Session β RecordingSink :=
  run.foldl act session

/-- The sessions that a run ticks, each right before its tick. -/
def ticksOver (session : Session β RecordingSink) : List (Act β) → List (Session β RecordingSink)
  | [] => []
  | .step .tick :: rest => session :: (session.act (.step .tick)).ticksOver rest
  | next :: rest => (session.act next).ticksOver rest

/-- `after` is `before` with so many ticks on the accounts. -/
structure Accounts (before after : Session β RecordingSink)
    (ticked : List (Session β RecordingSink)) : Prop where
  recorded : after.sink.events.toList = before.sink.events.toList ++
    ((ticked.flatMap sends).filter Verdict.taken).map Verdict.event
  delivered : after.stats.delivered =
    before.stats.delivered + (ticked.flatMap sends).countP Verdict.taken
  dropped : after.stats.dropped =
    before.stats.dropped + (ticked.flatMap sends).countP fun verdict => !verdict.taken
  ticks : after.stats.ticks = before.stats.ticks + ticked.length
  failures : ∀ device, after.stats.failures.get device =
    before.stats.failures.get device + ticked.countP fun session => session.pollFails device

theorem accounts_quiet {before after : Session β RecordingSink}
    (hevents : after.sink.events = before.sink.events) (hstats : after.stats = before.stats) :
    Accounts before after [] := by
  constructor
  case recorded => rw [hevents]; exact (List.append_nil _).symm
  case delivered => rw [hstats]; rfl
  case dropped => rw [hstats]; rfl
  case ticks => rw [hstats]; rfl
  case failures => intro device; rw [hstats]; rfl

theorem Accounts.trans {first second third : Session β RecordingSink}
    {earlier later : List (Session β RecordingSink)} (h : Accounts first second earlier)
    (h' : Accounts second third later) : Accounts first third (earlier ++ later) := by
  constructor
  case recorded =>
    rw [h'.recorded, h.recorded, List.flatMap_append, List.filter_append, List.map_append,
      List.append_assoc]
  case delivered =>
    rw [h'.delivered, h.delivered, List.flatMap_append, List.countP_append]
    omega
  case dropped =>
    rw [h'.dropped, h.dropped, List.flatMap_append, List.countP_append]
    omega
  case ticks =>
    rw [h'.ticks, h.ticks, List.length_append]
    omega
  case failures =>
    intro device
    rw [h'.failures device, h.failures device, List.countP_append]
    omega

theorem accounts_tick (session : Session β RecordingSink) :
    Accounts session session.tick.value [session] := by
  obtain ⟨hsink, hdelivered, hdropped⟩ := deliver_sendAll session.signals session.sink
  have hsends : [session].flatMap sends = session.sends := List.append_nil _
  constructor
  case recorded =>
    rw [hsends, sends, ← RecordingSink.events_sendAll]
    exact congrArg (fun sink : RecordingSink => sink.events.toList) hsink
  case delivered => rw [hsends]; exact congrArg (session.stats.delivered + ·) hdelivered
  case dropped => rw [hsends]; exact congrArg (session.stats.dropped + ·) hdropped
  case ticks => rfl
  case failures =>
    intro device
    show ((session.stats.failures.zipWith _ _).get device) = _
    rw [PerDevice.get_zipWith, scan_failed]
    rw [List.countP_singleton]
    cases session.pollFails device <;> rfl

theorem accounts_acts : ∀ (run : List (Act β)) (session : Session β RecordingSink),
    Accounts session (session.acts run) (session.ticksOver run)
  | [], _ => accounts_quiet rfl rfl
  | next :: rest, session => by
    have hrest := accounts_acts rest (session.act next)
    cases next with
    | reject count =>
      have hquiet : Accounts session (session.act (.reject count)) [] := accounts_quiet rfl rfl
      exact hquiet.trans hrest
    | step next =>
      cases next with
      | start =>
        obtain ⟨hsink, hstats⟩ := start_rest session
        have hquiet : Accounts session (session.act (.step .start)) [] :=
          accounts_quiet (congrArg RecordingSink.events hsink) hstats
        exact hquiet.trans hrest
      | tick => exact (accounts_tick session).trans hrest
      | change f =>
        have hquiet : Accounts session (session.act (.step (.change f))) [] :=
          accounts_quiet rfl rfl
        exact hquiet.trans hrest

theorem length_ticksOver : ∀ (run : List (Act β)) (session : Session β RecordingSink),
    (session.ticksOver run).length = run.countP Act.isTick
  | [], _ => rfl
  | .step .tick :: rest, session => by
    rw [ticksOver, List.length_cons, length_ticksOver rest, List.countP_cons_of_pos rfl]
  | .step .start :: rest, session => length_ticksOver rest (session.act (.step .start))
  | .step (.change f) :: rest, session => length_ticksOver rest (session.act (.step (.change f)))
  | .reject count :: rest, session => length_ticksOver rest (session.act (.reject count))

theorem sends_events (session : Session β RecordingSink) :
    session.sends.map Verdict.event = session.attempts := sendAll_events ..

theorem flatMap_sends_events : ∀ ticked : List (Session β RecordingSink),
    (ticked.flatMap sends).map Verdict.event = ticked.flatMap attempts
  | [] => rfl
  | session :: rest => by
    rw [List.flatMap_cons, List.flatMap_cons, List.map_append, sends_events,
      flatMap_sends_events rest]

theorem totalFailures_eq (stats : Stats) :
    stats.totalFailures =
      stats.failures.keyboard + stats.failures.mouse + stats.failures.lightpen := by
  show 0 + stats.failures.keyboard + stats.failures.mouse + stats.failures.lightpen = _
  omega

/-- **Groups and accounts.** What a tick of any session attempts are the groups of the
keyboard, the mouse and the pen, each of them empty or events of its device and one sync.

A new session with a recording sink is driven by starts, ticks and changes of its bus, and
in between the sink is told to reject events. At each tick the sink rejects the first
attempts, as many as are still to be rejected, and takes the others. In the end it holds
what it held before and the attempts of all ticks without the rejected ones. The session
has counted as delivered what was recorded and as dropped the rest, it has counted its
ticks, and for each device the ticks in which it was in use and its poll failed. -/
theorem groups_and_accounts :
    (∀ {σ : Type} (session : Session β σ),
      session.attempts =
          session.group .keyboard ++ session.group .mouse ++ session.group .lightpen ∧
        ∀ device : Device, device.IsGroup (session.group device)) ∧
    ∀ (bus : β) (sink : RecordingSink) (config : Config) (run : List (Act β)),
      let ticked := (Session.new bus sink config).ticksOver run
      let sent := ticked.flatMap sends
      let after := (Session.new bus sink config).acts run
      (∀ before ∈ ticked, before.sends =
          (before.attempts.take before.sink.rejections).map (⟨·, .error .closed⟩) ++
            (before.attempts.drop before.sink.rejections).map (⟨·, .ok ()⟩)) ∧
        sent.map Verdict.event = ticked.flatMap attempts ∧
        after.sink.events.toList =
          sink.events.toList ++ (sent.filter Verdict.taken).map Verdict.event ∧
        after.sink.events.size = sink.events.size + after.stats.delivered ∧
        after.stats.delivered + after.stats.dropped = (ticked.flatMap attempts).length ∧
        after.stats.ticks = run.countP Act.isTick ∧
        (∀ device, after.stats.failures.get device =
          ticked.countP fun before => before.pollFails device) ∧
        after.stats.totalFailures = after.stats.failures.get .keyboard +
          after.stats.failures.get .mouse + after.stats.failures.get .lightpen ∧
        after.stats.totalFailures ≤ 3 * after.stats.ticks := by
  refine ⟨fun session => ⟨session.attempts_eq, session.isGroup_group⟩, ?_⟩
  intro bus sink config run ticked sent after
  have haccounts : Accounts (Session.new bus sink config) after ticked := accounts_acts run _
  have hevents : sent.map Verdict.event = ticked.flatMap attempts := flatMap_sends_events ticked
  have hdelivered : after.stats.delivered = sent.countP Verdict.taken :=
    haccounts.delivered.trans (Nat.zero_add _)
  have hdropped : after.stats.dropped = sent.countP fun verdict => !verdict.taken :=
    haccounts.dropped.trans (Nat.zero_add _)
  have hticks : after.stats.ticks = ticked.length := haccounts.ticks.trans (Nat.zero_add _)
  have hfailures : ∀ device, after.stats.failures.get device =
      ticked.countP fun before => before.pollFails device := by
    intro device
    rw [haccounts.failures device]
    cases device <;> exact Nat.zero_add _
  refine ⟨?_, hevents, haccounts.recorded, ?_, ?_, ?_, hfailures, totalFailures_eq _, ?_⟩
  · intro before _
    unfold sends
    rw [RecordingSink.sendAll_eq]
  · have hsize := congrArg List.length haccounts.recorded
    rw [List.length_append, List.length_map, ← List.countP_eq_length_filter] at hsize
    rw [hdelivered]
    exact hsize
  · have hlength := congrArg List.length hevents
    rw [List.length_map, List.length_eq_countP_add_countP Verdict.taken] at hlength
    rw [hdelivered, hdropped, ← hlength]
    simp
  · rw [hticks]
    exact length_ticksOver run _
  · have hbound : ∀ device, after.stats.failures.get device ≤ after.stats.ticks := by
      intro device
      rw [hfailures, hticks]
      exact List.countP_le_length
    have hkeyboard := hbound .keyboard
    have hmouse := hbound .mouse
    have hpen := hbound .lightpen
    have htotal : after.stats.totalFailures = after.stats.failures.get .keyboard +
        after.stats.failures.get .mouse + after.stats.failures.get .lightpen :=
      totalFailures_eq _
    omega

end Session

end InputBridge
