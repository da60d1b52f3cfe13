import InputBridge.Event.Sink
import InputBridge.Event.Writer

/-!
# Events as JSON lines

One object per event with its three raw numbers, one line each. A sync also
flushes the writer, so that a reader sees a whole group at once. An object that
does not fit is an encoding error; a line end or a flush that fails is an error
of the writer.
-/

namespace InputBridge

/-- The object of a raw event. -/
def RawEvent.json (raw : RawEvent) : String :=
  "\x7b\"type\":" ++ Text.decimal raw.kind.toNat ++ ",\"code\":" ++ Text.decimal raw.code.toNat ++
    ",\"value\":" ++ Text.decimal raw.value.toInt ++ "\x7d"

/-- A sink that writes a JSON line per event. -/
structure JsonLinesSink where
  writer : Writer := {}

namespace JsonLinesSink

/-- Writes the line of an event, and flushes after a sync. -/
def send (event : Event) (sink : JsonLinesSink) : Except SinkError Unit × JsonLinesSink :=
  match sink.writer.write event.raw.json with
  | (.error problem, writer) => (.error (.encode problem.message), { writer })
  | (.ok (), writer) =>
    match writer.write "\n" with
    | (.error problem, writer) => (.error (.io problem.message), { writer })
    | (.ok (), writer) =>
      if event.isSync then
        match writer.flush with
        | (.error problem, writer) => (.error (.io problem.message), { writer })
        | (.ok (), writer) => (.ok (), { writer })
      else (.ok (), { writer })

instance : EventSink JsonLinesSink where
  send := JsonLinesSink.send

end JsonLinesSink

end InputBridge
