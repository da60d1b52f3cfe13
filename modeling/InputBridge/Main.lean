import InputBridge.CommandLine.Execution

/-!
# The command line program

The outer layer: it reads and writes files, keeps time, and prints. What is read,
decided and written is the business of the modules it calls. A run polls an idle
machine until its time is over, or for good if it has no limit.
-/

namespace InputBridge.Shell

/-- The file error behind a failure of the operating system. -/
def fileError : IO.Error → FileError
  | .noFileOrDirectory .. => .notFound
  | .permissionDenied .. => .permissionDenied
  | .inappropriateType _ code _ =>
    if code = 20 then .notADirectory else if code = 21 then .isADirectory
    else .other (toString code)
  | .resourceExhausted _ 28 _ => .noSpace
  | .invalidArgument _ 36 _ => .nameTooLong
  | problem => .other (toString problem)

/-- Reads a file as text. -/
def readText (path : String) : IO (Except FileError String) := do
  try
    let content ← IO.FS.readBinFile path
    match String.fromUTF8? content with
    | some text => return .ok text
    | none => return .error .notText
  catch problem => return .error (fileError problem)

/-- The configuration of a command. -/
def resolve (options : DeviceOptions) : IO (Except ConfigError Config) := do
  match options.configPath with
  | none => return options.resolve fun _ => .error .notFound
  | some path =>
    let content ← readText path
    return options.resolve fun _ => content

/-- Is a level to be shown? -/
def shown (verbosity : Nat) : LogLevel → Bool
  | .error | .warn => true
  | .info => 1 ≤ verbosity
  | .debug => 2 ≤ verbosity

/-- Prints the log records that are to be shown. -/
def printNotes (verbosity : Nat) (notes : List Note) : IO Unit := do
  for note in notes do
    let record := note.record
    if shown verbosity record.level then
      let fields := record.fields.map fun (name, value) => " " ++ name ++ "=" ++ value
      IO.eprintln (record.level.name.toUpper ++ " " ++ record.message ++ String.join fields)

/-- Reports a failed command and gives its exit code. -/
def fail (problem : CommandError) : IO UInt32 := do
  for line in problem.report do
    IO.eprintln line
  return 1

section Polling

variable {σ : Type} [EventSink σ]

/-- Ticks at the cadence of the poller until the deadline; `drain` prints what the
sink took. -/
partial def pollUntil (deadline : Option Nat) (verbosity : Nat) (drain : σ → IO σ)
    (poller : Poller MemoryBus σ) (lastTick : Option Nat) : IO (Poller MemoryBus σ) := do
  let now ← IO.monoNanosNow
  if deadline.any (· ≤ now) then return poller
  let due := lastTick.all fun ticked => ticked + nanoseconds poller.interval ≤ now
  if due then
    let turned := poller.look.turn (.tick none)
    printNotes verbosity turned.notes
    let poller := turned.value.1
    let worker ← match poller.worker with
      | some (.looking session) =>
        pure (some (.looking { session with sink := ← drain session.sink }))
      | worker => pure worker
    pollUntil deadline verbosity drain { poller with worker } (some now)
  else
    IO.sleep (max 1 (poller.idleSleep.toNat / 1000)).toUInt32
    pollUntil deadline verbosity drain poller lastTick

/-- Polls an idle machine and prints the counters at the end. -/
def poll (config : Config) (seconds : Option UInt64) (verbosity : Nat) (sink : σ)
    (drain : σ → IO σ) : IO UInt32 := do
  let machine := idleMachine (.forChipset config.chipset)
  let started := (Poller.new machine sink config).start
  printNotes verbosity started.notes
  match started.value with
  | (.error problem, _) => fail ⟨"starting input poller", [problem.message]⟩
  | (.ok (), poller) =>
    let now ← IO.monoNanosNow
    let deadline := seconds.map fun seconds => now + seconds.toNat * 1000000000
    let polled ← pollUntil deadline verbosity drain poller none
    let stopped := polled.stop .sleep
    printNotes verbosity stopped.notes
    match stopped.value.1 with
    | .error problem => fail ⟨"stopping input poller", [problem.message]⟩
    | .ok stats =>
      for line in Command.statsLines (stats.getD {}) do
        IO.eprintln line
      return 0

end Polling

/-- Prints the lines a sink wrote and forgets them. -/
def drainLines (sink : JsonLinesSink) : IO JsonLinesSink := do
  IO.print sink.writer.text
  (← IO.getStdout).flush
  return {}

/-- Prints the events a sink noted and forgets them. -/
def drainNotes (verbosity : Nat) (sink : LogSink) : IO LogSink := do
  printNotes verbosity sink.notes.toList
  return {}

/-- Runs a command and gives its exit code. -/
def run (invocation : Invocation) : IO UInt32 := do
  match invocation.command with
  | .run devices events seconds =>
    match ← resolve devices with
    | .error problem => fail (Command.configError problem)
    | .ok config =>
      match events with
      | .log =>
        poll config seconds invocation.verbosity ({} : LogSink) (drainNotes invocation.verbosity)
      | .json => poll config seconds invocation.verbosity ({} : JsonLinesSink) drainLines
  | .test devices =>
    match ← resolve devices with
    | .error problem => fail (Command.configError problem)
    | .ok config =>
      let (verdict, text) := Command.checkIdle config
      IO.print text
      match verdict with
      | .ok () => return 0
      | .error problem => fail problem
  | .keymap none =>
    IO.print KeyMap.standard.listing
    return 0
  | .keymap (some path) =>
    try
      IO.FS.writeFile path (Drawing.render .standard)
      IO.print (Command.writtenLine path)
      return 0
    catch problem => fail (Command.writeError path (fileError problem))

end InputBridge.Shell

/-- Runs the command that the arguments stand for, or rejects them. -/
def main (args : List String) : IO UInt32 := do
  match InputBridge.CommandLine.parse args with
  | some invocation => InputBridge.Shell.run invocation
  | none =>
    IO.eprintln "error: the arguments name no command, or an option it does not take"
    return 2
