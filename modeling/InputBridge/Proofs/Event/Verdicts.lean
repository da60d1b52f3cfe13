import InputBridge.Event.Sink
import InputBridge.Proofs.Event.Delivery

/-!
# What becomes of events

`sendAll` sends events to a sink one after the other and notes the answer to each.
Delivery is that and nothing more: it leaves the sink as `sendAll` does, and its two
counters are the events that were taken and those that were not (`deliver_sendAll`).
For a sink that records, `RecordingSink.sendAll_eq` says which ones these are: the first
ones are rejected, as many as it was told to reject, and the rest is recorded.
-/

namespace InputBridge

/-- An event that was sent, with the answer of the sink. -/
structure Verdict where
  event : Event
  answer : Except SinkError Unit

/-- Did the sink take the event? -/
def Verdict.taken (verdict : Verdict) : Bool := verdict.answer.isOk

section Sink

variable {σ : Type} [EventSink σ]

/-- Sends events in order. Gives each with its answer, and the sink after them. -/
def sendAll : List Event → σ → List Verdict × σ
  | [], sink => ([], sink)
  | event :: rest, sink =>
    let (answer, sink) := EventSink.send event sink
    let (verdicts, sink) := sendAll rest sink
    (⟨event, answer⟩ :: verdicts, sink)

theorem sendAll_events : ∀ (events : List Event) (sink : σ),
    (sendAll events sink).1.map Verdict.event = events
  | [], _ => rfl
  | event :: rest, sink =>
    congrArg (List.cons event) (sendAll_events rest (EventSink.send event sink).2)

/-- Sending goes on where it was left off. -/
theorem sendAll_append : ∀ (earlier later : List Event) (sink : σ),
    sendAll (earlier ++ later) sink =
      ((sendAll earlier sink).1 ++ (sendAll later (sendAll earlier sink).2).1,
        (sendAll later (sendAll earlier sink).2).2)
  | [], _, _ => rfl
  | event :: rest, later, sink =>
    congrArg (fun sent => (⟨event, (EventSink.send event sink).1⟩ :: sent.1, sent.2))
      (sendAll_append rest later (EventSink.send event sink).2)

/-- An event meets the sink as the events before it left it, and gets its answer there. -/
theorem sendAll_step (earlier : List Event) (event : Event) (later : List Event) (sink : σ) :
    let sent := EventSink.send event (sendAll earlier sink).2
    (sendAll (earlier ++ event :: later) sink).1[earlier.length]? = some ⟨event, sent.1⟩ ∧
      (sendAll (earlier ++ [event]) sink).2 = sent.2 := by
  intro sent
  have hlength : (sendAll earlier sink).1.length = earlier.length := by
    rw [← List.length_map, sendAll_events]
  rw [sendAll_append, sendAll_append, List.getElem?_append_right (Nat.le_of_eq hlength), hlength,
    Nat.sub_self]
  exact ⟨rfl, rfl⟩

/-- Delivery sends the attempts, and counts those that are taken and those that are not. -/
theorem deliver_sendAll : ∀ (signals : List Signal) (sink : σ),
    let sent := sendAll (signals.filterMap Signal.event?) sink
    (deliver signals sink).sink = sent.2 ∧
      (deliver signals sink).delivered = sent.1.countP Verdict.taken ∧
      (deliver signals sink).dropped = sent.1.countP fun verdict => !verdict.taken
  | [], sink => ⟨rfl, rfl, rfl⟩
  | .note note :: rest, sink => deliver_sendAll rest sink
  | .attempt device event :: rest, sink => by
    have hrest := deliver_sendAll rest (EventSink.send event sink).2
    intro sent
    have hsent : sent = (⟨event, (EventSink.send event sink).1⟩ ::
        (sendAll (rest.filterMap Signal.event?) (EventSink.send event sink).2).1,
        (sendAll (rest.filterMap Signal.event?) (EventSink.send event sink).2).2) := rfl
    rw [hsent]
    unfold deliver
    generalize EventSink.send event sink = answered at hrest ⊢
    obtain ⟨answer, sink⟩ := answered
    obtain ⟨hsink, hdelivered, hdropped⟩ := hrest
    cases answer with
    | ok _ =>
      refine ⟨hsink, ?_, ?_⟩
      · rw [List.countP_cons_of_pos rfl]
        exact congrArg (· + 1) hdelivered
      · rw [List.countP_cons_of_neg (by exact Bool.false_ne_true)]
        exact hdropped
    | error cause =>
      refine ⟨hsink, ?_, ?_⟩
      · rw [List.countP_cons_of_neg (by exact Bool.false_ne_true)]
        exact hdelivered
      · rw [List.countP_cons_of_pos rfl]
        exact congrArg (· + 1) hdropped

end Sink

/-- A recording sink rejects as many events as it was told to, and records the others. -/
theorem RecordingSink.sendAll_eq : ∀ (events : List Event) (sink : RecordingSink),
    sendAll events sink =
      ((events.take sink.rejections).map (⟨·, .error .closed⟩) ++
          (events.drop sink.rejections).map (⟨·, .ok ()⟩),
        { events := sink.events ++ events.drop sink.rejections
          rejections := sink.rejections - events.length })
  | [], sink => by simp [sendAll]
  | event :: rest, ⟨kept, 0⟩ => by
    have hsend : EventSink.send event (⟨kept, 0⟩ : RecordingSink) =
        (.ok (), ⟨kept.push event, 0⟩) := rfl
    rw [sendAll, hsend]
    dsimp only
    rw [RecordingSink.sendAll_eq rest]
    simp
  | event :: rest, ⟨kept, count + 1⟩ => by
    have hsend : EventSink.send event (⟨kept, count + 1⟩ : RecordingSink) =
        (.error .closed, ⟨kept, count⟩) := rfl
    rw [sendAll, hsend]
    dsimp only
    rw [RecordingSink.sendAll_eq rest]
    simp

/-- What a recording sink holds after some events: those before, and the ones it took. -/
theorem RecordingSink.events_sendAll (events : List Event) (sink : RecordingSink) :
    (sendAll events sink).2.events.toList =
      sink.events.toList ++ ((sendAll events sink).1.filter Verdict.taken).map Verdict.event := by
  have hrejected : ∀ some : List Event,
      (some.map (Verdict.mk · (.error .closed))).filter Verdict.taken = [] := by
    intro some
    rw [List.filter_eq_nil_iff]
    intro verdict hin
    obtain ⟨event, _, rfl⟩ := List.mem_map.mp hin
    exact Bool.false_ne_true
  have htaken : ∀ some : List Event,
      (some.map (Verdict.mk · (.ok ()))).filter Verdict.taken =
        some.map (Verdict.mk · (.ok ())) := by
    intro some
    rw [List.filter_eq_self]
    intro verdict hin
    obtain ⟨event, _, rfl⟩ := List.mem_map.mp hin
    rfl
  rw [RecordingSink.sendAll_eq]
  dsimp only
  rw [List.filter_append, hrejected, htaken, List.nil_append, List.map_map]
  simp [Function.comp_def]

end InputBridge
