import InputBridge.Event.Group

/-!
# Delivery

A sink sees the events of a list of signals once each, in order, and nothing else. To
say so, a sink is tapped: `Tapped` notes every event that it is sent, taken or not, and
`deliver_tapped` says that delivery to a tapped sink is delivery to the sink, with
exactly the attempts noted. Whether they were taken only moves them between the two
counters (`deliver_count`). Signals are delivered in parts as they are at once
(`deliver_append`).

Notes are tallied by what happened to an event or a device (`tallied`). A delivery passes
on the notes among the signals, and adds one for each event that it counts
(`tallied_deliver`).
-/

namespace InputBridge

/-- A sink, and every event that it was sent, oldest first. -/
structure Tapped (σ : Type) where
  sink : σ
  sent : List Event := []

instance {σ : Type} [EventSink σ] : EventSink (Tapped σ) where
  send event tapped :=
    let (answer, sink) := EventSink.send event tapped.sink
    (answer, ⟨sink, tapped.sent ++ [event]⟩)

section Delivery

variable {σ : Type} [EventSink σ]

/-- Delivery to a tapped sink: delivery to the sink, with every attempt noted once. -/
theorem deliver_tapped : ∀ (signals : List Signal) (tapped : Tapped σ),
    deliver signals tapped =
      { sink :=
          ⟨(deliver signals tapped.sink).sink, tapped.sent ++ signals.filterMap Signal.event?⟩
        delivered := (deliver signals tapped.sink).delivered
        dropped := (deliver signals tapped.sink).dropped
        notes := (deliver signals tapped.sink).notes }
  | [], tapped => by simp [deliver]
  | .note note :: rest, tapped => by
    rw [deliver, deliver, deliver_tapped rest]
    rfl
  | .attempt device event :: rest, tapped => by
    -- A tapped sink answers as the sink in it does.
    have hsend : EventSink.send event tapped =
        ((EventSink.send event tapped.sink).1,
          ⟨(EventSink.send event tapped.sink).2, tapped.sent ++ [event]⟩) := rfl
    unfold deliver
    rw [hsend]
    obtain ⟨answer, sink⟩ := EventSink.send event tapped.sink
    cases answer with
    | ok _ =>
      simp only []
      rw [deliver_tapped rest, List.append_assoc]
      rfl
    | error cause =>
      simp only []
      rw [deliver_tapped rest, List.append_assoc]
      rfl

/-- Every attempt is counted once, as delivered or as dropped. -/
theorem deliver_count : ∀ (signals : List Signal) (sink : σ),
    (deliver signals sink).delivered + (deliver signals sink).dropped =
      (signals.filterMap Signal.event?).length
  | [], _ => rfl
  | .note _ :: rest, sink => deliver_count rest sink
  | .attempt device event :: rest, sink => by
    have hrest := deliver_count rest (EventSink.send event sink).2
    unfold deliver
    generalize EventSink.send event sink = sent at hrest ⊢
    obtain ⟨answer, sink⟩ := sent
    have hlength : ((Signal.attempt device event :: rest).filterMap Signal.event?).length =
        (rest.filterMap Signal.event?).length + 1 := rfl
    cases answer with
    | ok _ => simp only [] at hrest ⊢; omega
    | error cause => simp only [] at hrest ⊢; omega

/-- A delivery, and another one after it. -/
def Delivery.followedBy (first later : Delivery σ) : Delivery σ where
  sink := later.sink
  delivered := first.delivered + later.delivered
  dropped := first.dropped + later.dropped
  notes := first.notes ++ later.notes

/-- What is left of a list of signals is delivered to the sink that the first part leaves. -/
theorem deliver_append : ∀ (signals later : List Signal) (sink : σ),
    deliver (signals ++ later) sink =
      (deliver signals sink).followedBy (deliver later (deliver signals sink).sink)
  | [], later, sink => by simp [deliver, Delivery.followedBy]
  | .note note :: rest, later, sink => by
    rw [List.cons_append, deliver, deliver_append rest later]
    rfl
  | .attempt device event :: rest, later, sink => by
    rw [List.cons_append, deliver, deliver]
    obtain ⟨answer, sink⟩ := EventSink.send event sink
    cases answer with
    | ok _ =>
      dsimp only
      rw [deliver_append rest later]
      simp only [Delivery.followedBy, List.cons_append, Nat.add_right_comm]
    | error cause =>
      dsimp only
      rw [deliver_append rest later]
      simp only [Delivery.followedBy, List.cons_append, Nat.add_right_comm]

/-- Where nothing is attempted, a sink is left alone. -/
theorem sink_deliver_of_silent : ∀ (signals : List Signal) (sink : σ),
    signals.filterMap Signal.event? = [] → (deliver signals sink).sink = sink
  | [], _, _ => rfl
  | .note _ :: rest, sink, h => sink_deliver_of_silent rest sink h
  | .attempt _ _ :: _, _, h => absurd h (List.cons_ne_nil _ _)

end Delivery

/-! ## The notes of a delivery -/

/-- What notes can tell of events and devices. -/
inductive Tally where
  | delivered
  | dropped
  | unmapped
  | disabled (device : Device)
  | failed (device : Device)
  deriving DecidableEq

/-- What a note is tallied as, if it is. -/
def Note.tally? : Note → Option Tally
  | .delivered .. => some .delivered
  | .dropped .. => some .dropped
  | .unmapped _ => some .unmapped
  | .deviceDisabled device _ => some (.disabled device)
  | .scanFailed device _ => some (.failed device)
  | _ => none

/-- How many notes tell this. -/
def tallied (notes : List Note) (tally : Tally) : Nat := (notes.filterMap Note.tally?).count tally

theorem tallied_append (earlier later : List Note) (tally : Tally) :
    tallied (earlier ++ later) tally = tallied earlier tally + tallied later tally := by
  unfold tallied
  rw [List.filterMap_append, List.count_append]

theorem tallied_cons (note : Note) (notes : List Note) (tally : Tally) :
    tallied (note :: notes) tally =
      tallied notes tally + if note.tally? = some tally then 1 else 0 := by
  unfold tallied
  cases hnote : note.tally? with
  | none => rw [List.filterMap_cons_none hnote]; rfl
  | some told =>
    rw [List.filterMap_cons_some hnote, List.count_cons]
    simp only [beq_iff_eq, Option.some.injEq]

/-- The note of a signal, if it is one. -/
def Signal.note? : Signal → Option Note
  | .attempt .. => none
  | .note made => some made

section Delivery

variable {σ : Type} [EventSink σ]

/-- The notes of a delivery are those that were signalled, and one for each event that was
taken or rejected. -/
theorem tallied_deliver (tally : Tally) : ∀ (signals : List Signal) (sink : σ),
    tallied (deliver signals sink).notes tally =
      tallied (signals.filterMap Signal.note?) tally +
        (if tally = .delivered then (deliver signals sink).delivered else 0) +
        (if tally = .dropped then (deliver signals sink).dropped else 0)
  | [], _ => by cases tally <;> rfl
  | .note note :: rest, sink => by
    have hrest := tallied_deliver tally rest sink
    have hdeliver : deliver (.note note :: rest) sink =
        { deliver rest sink with notes := note :: (deliver rest sink).notes } := rfl
    have hsignalled : (Signal.note note :: rest).filterMap Signal.note? =
        note :: rest.filterMap Signal.note? := rfl
    rw [hdeliver, hsignalled]
    dsimp only
    rw [tallied_cons, tallied_cons, hrest]
    omega
  | .attempt device event :: rest, sink => by
    have hrest := tallied_deliver tally rest (EventSink.send event sink).2
    have hsignalled : (Signal.attempt device event :: rest).filterMap Signal.note? =
        rest.filterMap Signal.note? := rfl
    rw [hsignalled]
    unfold deliver
    generalize EventSink.send event sink = sent at hrest ⊢
    obtain ⟨answer, sink⟩ := sent
    cases answer with
    | ok _ =>
      dsimp only at hrest ⊢
      rw [tallied_cons, hrest]
      cases tally <;> simp [Note.tally?, Nat.add_assoc]
    | error cause =>
      dsimp only at hrest ⊢
      rw [tallied_cons, hrest]
      cases tally <;> simp [Note.tally?, Nat.add_assoc]

/-- What is read off the notes of a delivery and not off those about events is read off the
notes that were signalled. -/
theorem filterMap_deliver {α : Type} {f : Note → Option α}
    (htaken : ∀ device event, f (.delivered device event) = none)
    (hlost : ∀ device event cause, f (.dropped device event cause) = none) :
    ∀ (signals : List Signal) (sink : σ),
      (deliver signals sink).notes.filterMap f =
        (signals.filterMap Signal.note?).filterMap f
  | [], _ => rfl
  | .note note :: rest, sink => by
    have hrest := filterMap_deliver htaken hlost rest sink
    have hnotes : (deliver (.note note :: rest) sink).notes =
        note :: (deliver rest sink).notes := rfl
    have hsignalled : (Signal.note note :: rest).filterMap Signal.note? =
        note :: rest.filterMap Signal.note? := rfl
    rw [hnotes, hsignalled, List.filterMap_cons, List.filterMap_cons, hrest]
  | .attempt device event :: rest, sink => by
    have hrest := filterMap_deliver htaken hlost rest (EventSink.send event sink).2
    have hsignalled : (Signal.attempt device event :: rest).filterMap Signal.note? =
        rest.filterMap Signal.note? := rfl
    rw [hsignalled]
    unfold deliver
    generalize EventSink.send event sink = sent at hrest ⊢
    obtain ⟨answer, sink⟩ := sent
    cases answer with
    | ok _ =>
      dsimp only at hrest ⊢
      rw [List.filterMap_cons_none (htaken device event), hrest]
    | error cause =>
      dsimp only at hrest ⊢
      rw [List.filterMap_cons_none (hlost device event cause), hrest]

end Delivery

end InputBridge
