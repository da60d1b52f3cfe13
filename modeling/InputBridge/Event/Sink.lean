import InputBridge.Event.Basic

/-!
# Event sinks

A sink takes events one at a time and may reject any of them. Delivery is best
effort: whoever sends an event notes a rejection and goes on. `RecordingSink`
keeps what it accepted and can be told to reject the next few events.
-/

namespace InputBridge

/-- Why a sink rejected an event. -/
inductive SinkError where
  | closed
  /-- Writing failed. -/
  | io (reason : String)
  /-- The event could not be written out whole. -/
  | encode (reason : String)
  deriving DecidableEq, Repr

/-- The text of a rejection. -/
def SinkError.message : SinkError → String
  | .closed => "event sink closed"
  | .io reason => "event sink I/O error: " ++ reason
  | .encode reason => "failed to encode event: " ++ reason

/-- The text of the cause that a rejection wraps. -/
def SinkError.source : SinkError → Option String
  | .closed => none
  | .io reason | .encode reason => some reason

/-- A state that takes events. -/
class EventSink (σ : Type) where
  send : Event → σ → Except SinkError Unit × σ

/-- A sink that keeps what it accepts, oldest first, and rejects the next `rejections` events. -/
structure RecordingSink where
  events : Array Event := #[]
  rejections : Nat := 0

namespace RecordingSink

/-- Sends one event: it is rejected while rejections are left, and kept otherwise. -/
def send (event : Event) (sink : RecordingSink) : Except SinkError Unit × RecordingSink :=
  match sink.rejections with
  | rejections + 1 => (.error .closed, { sink with rejections })
  | 0 => (.ok (), { sink with events := sink.events.push event })

/-- Rejects the next `count` events, however many were to be rejected before. -/
def failNext (sink : RecordingSink) (count : Nat) : RecordingSink :=
  { sink with rejections := count }

/-- Forgets the events kept so far. -/
def emptied (sink : RecordingSink) : RecordingSink := { sink with events := #[] }

instance : EventSink RecordingSink where
  send := RecordingSink.send

end RecordingSink

end InputBridge
