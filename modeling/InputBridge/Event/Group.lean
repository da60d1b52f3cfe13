import InputBridge.Bus.Program
import InputBridge.Log

/-!
# Event groups and their delivery

While a device is polled it makes remarks: events to be sent and notes for the
log. `grouped` turns its program into one that speaks for the session: every
event is attempted in the name of the device, and a group with any event in it is
closed by one sync. `deliver` then hands the attempts to a sink, first to last.

A device never learns what became of its events. What is attempted is fixed by
the bus and the device alone; the sink decides only which attempts are kept.
-/

namespace InputBridge

/-- What a device says while it is polled. -/
inductive Remark where
  | event (event : Event)
  | note (note : Note)

/-- What a session says: an attempt to send an event of a device, or a note. -/
inductive Signal where
  | attempt (device : Device) (event : Event)
  | note (note : Note)

/-- The event of a remark, if it is one. -/
def Remark.event? : Remark → Option Event
  | .event e => some e
  | .note _ => none

/-- The event of an attempt. -/
def Signal.event? : Signal → Option Event
  | .attempt _ e => some e
  | .note _ => none

namespace Program

variable {ω α : Type}

/-- Speaks for `device`, and ends in a sync if an event was or is attempted. -/
def groupedFrom (device : Device) : Program Remark α → Bool → Program Signal α
  | .done value, pending =>
    if pending then .emit (.attempt device .sync) (.done value) else .done value
  | .read address width branch, pending =>
    .read address width fun answer => (branch answer).groupedFrom device pending
  | .write address width value branch, pending =>
    .write address width value fun answer => (branch answer).groupedFrom device pending
  | .emit (.event event) rest, _ => .emit (.attempt device event) (rest.groupedFrom device true)
  | .emit (.note note) rest, pending => .emit (.note note) (rest.groupedFrom device pending)

/-- The group of one device: its attempts, closed by a sync if there are any. -/
def grouped (device : Device) (program : Program Remark α) : Program Signal α :=
  program.groupedFrom device false

end Program

/-- What came of a list of signals. The two counters have no bound: what a counter of 64 bits
does after its greatest value is left out. -/
structure Delivery (σ : Type) where
  sink : σ
  delivered : Nat := 0
  dropped : Nat := 0
  notes : List Note := []

/-- Sends every attempt to the sink, in order; a rejected event is noted and left. -/
def deliver {σ : Type} [EventSink σ] : List Signal → σ → Delivery σ
  | [], sink => { sink }
  | .note note :: rest, sink =>
    let after := deliver rest sink
    { after with notes := note :: after.notes }
  | .attempt device event :: rest, sink =>
    match EventSink.send event sink with
    | (.ok (), sink) =>
      let after := deliver rest sink
      { after with
        delivered := after.delivered + 1
        notes := .delivered device event :: after.notes }
    | (.error cause, sink) =>
      let after := deliver rest sink
      { after with
        dropped := after.dropped + 1
        notes := .dropped device event cause :: after.notes }

end InputBridge
