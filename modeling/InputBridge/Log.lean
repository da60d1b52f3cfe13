import InputBridge.Error
import InputBridge.Device.Port
import InputBridge.Event.Sink
import InputBridge.Matrix.KeyMap

/-!
# The log

Sessions and devices note what happens to them. A `Note` says what happened, as
data; `Note.record` is the record that a log shows for it, with a level, a
message and named fields. Notes are results like any other: an operation that
makes some returns them in order, together with its value (`Logged`).

`LogSink` is the event sink that turns every event it takes into a note.
-/

namespace InputBridge

/-- How much a record matters. -/
inductive LogLevel where
  | debug
  | info
  | warn
  | error
  deriving DecidableEq, Repr

/-- The name of a level. -/
def LogLevel.name : LogLevel → String
  | .debug => "debug"
  | .info => "info"
  | .warn => "warn"
  | .error => "error"

/-- A log record. -/
structure LogRecord where
  level : LogLevel
  message : String
  fields : List (String × String) := []
  deriving DecidableEq, Repr

/-- Something worth noting. -/
inductive Note where
  /-- A sink took an event of a device. -/
  | delivered (device : Device) (event : Event)
  /-- A sink rejected an event of a device. -/
  | dropped (device : Device) (event : Event) (cause : SinkError)
  /-- A position of the matrix changed that the key map does not know. -/
  | unmapped (position : Position)
  /-- A report was bounded; the rest of the motion is pending. -/
  | motionBounded (port : Port) (pendingX pendingY : Int32)
  | latchEnabled
  | latchRefused (cause : BusError)
  | penDetected (x y : UInt16)
  | penLost
  | deviceDisabled (device : Device) (cause : BusError)
  /-- The devices are set up; which ones are in use. -/
  | devicesReady (inUse : PerDevice Bool)
  | scanFailed (device : Device) (cause : BusError)
  | pollerStarted (intervalMicros : UInt64)
  | pollerStopped (ticks dropped : Nat)
  | workerPanicked
  | droppedWhileRunning
  /-- An event that a log sink took. -/
  | event (event : Event)

namespace Note

/-- The record of an event that a log sink took. -/
def eventRecord : Event → LogRecord
  | .key key pressed =>
    ⟨.info, "key", [("key", key.label), ("code", Text.decimal key.code.toNat),
      ("pressed", Text.truth pressed)]⟩
  | .button button pressed =>
    ⟨.info, "button", [("button", button.name), ("pressed", Text.truth pressed)]⟩
  | .relative axis delta =>
    ⟨.info, "move", [("axis", axis.name), ("delta", Text.decimal delta.toInt)]⟩
  | .absolute axis value =>
    ⟨.info, "position", [("axis", axis.name), ("value", Text.decimal value.toInt)]⟩
  | .sync => ⟨.debug, "sync", []⟩

/-- The record that a log shows for a note. -/
def record : Note → LogRecord
  | .delivered device sent =>
    ⟨.debug, "event", [("device", device.name), ("event", sent.text)]⟩
  | .dropped device sent cause =>
    ⟨.warn, "dropped input event",
      [("device", device.name), ("event", sent.text), ("error", cause.message)]⟩
  | .unmapped position =>
    ⟨.warn, "matrix position has no key mapping",
      [("row", Text.decimal position.row), ("col", Text.decimal position.column)]⟩
  | .motionBounded port pendingX pendingY =>
    ⟨.debug, "mouse delta clamped", [("port", Text.decimal port.index),
      ("px", Text.decimal pendingX.toInt), ("py", Text.decimal pendingY.toInt)]⟩
  | .latchEnabled => ⟨.info, "lightpen latch enabled", []⟩
  | .latchRefused cause =>
    ⟨.warn, "could not enable lightpen latch in BPLCON0", [("error", cause.message)]⟩
  | .penDetected x y =>
    ⟨.debug, "lightpen detected", [("x", Text.decimal x.toNat), ("y", Text.decimal y.toNat)]⟩
  | .penLost => ⟨.debug, "lightpen lost", []⟩
  | .deviceDisabled device cause =>
    ⟨.warn, "device disabled",
      [("device", device.name), ("error", (BridgeError.deviceSetUp device cause).message)]⟩
  | .devicesReady inUse =>
    ⟨.info, "input devices initialized", [("keyboard", Text.truth inUse.keyboard),
      ("mouse", Text.truth inUse.mouse), ("lightpen", Text.truth inUse.lightpen)]⟩
  | .scanFailed device cause =>
    ⟨.warn, "scan failed, retrying next tick",
      [("device", device.name), ("error", cause.message)]⟩
  | .pollerStarted intervalMicros =>
    ⟨.info, "input poller started", [("interval_us", Text.decimal intervalMicros.toNat)]⟩
  | .pollerStopped ticks lost =>
    ⟨.info, "input poller stopped",
      [("ticks", Text.decimal ticks), ("dropped", Text.decimal lost)]⟩
  | .workerPanicked => ⟨.error, "input poller thread panicked", []⟩
  | .droppedWhileRunning => ⟨.warn, "input poller dropped while running, stopping", []⟩
  | .event taken => eventRecord taken

end Note

/-- A value with the notes made on the way to it, in order. -/
structure Logged (α : Type) where
  value : α
  notes : List Note := []

/-- A sink that notes every event it takes, oldest first, and rejects none. -/
structure LogSink where
  notes : Array Note := #[]

instance : EventSink LogSink where
  send event sink := (.ok (), { notes := sink.notes.push (.event event) })

end InputBridge
