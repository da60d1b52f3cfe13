import InputBridge.CommandLine.Directory
import InputBridge.CommandLine.Invocation
import InputBridge.Config.Reader
import InputBridge.Diagnostics
import InputBridge.Event.JsonLines
import InputBridge.IdleMachine
import InputBridge.Matrix.Drawing
import InputBridge.Matrix.Listing
import InputBridge.Poller

/-!
# Running a command

What each command does, as a function of the files it finds. `resolve` builds the
configuration: the file first, then the options over it, and the result is
validated again. The machine is an idle one, as there is no channel to a real one
here.
-/

namespace InputBridge

/-! ## Configuration -/

/-- A configuration with the given options over it. -/
def DeviceOptions.override (options : DeviceOptions) (config : Config) : Config :=
  { config with
    pollInterval := options.interval.getD config.pollInterval
    chipset := options.chipset.getD config.chipset
    mousePorts := if options.mousePorts = [] then config.mousePorts else options.mousePorts
    maxMouseDelta := options.maxDelta.getD config.maxMouseDelta
    lightpen := config.lightpen && !options.noLightpen }

/-- The configuration in a file, which must be valid by itself. -/
def Config.load (read : String → Except FileError String) (path : String) :
    Except ConfigError Config :=
  match read path with
  | .error cause => .error (.unreadable path cause.message)
  | .ok text => Config.parse text

/-- The configuration of a command: that of the file, or else the default one, with
the options over it. -/
def DeviceOptions.resolve (options : DeviceOptions) (read : String → Except FileError String) :
    Except ConfigError Config := do
  let config ← match options.configPath with
    | some path => Config.load read path
    | none => .ok {}
  let config := options.override config
  config.validate
  return config

/-! ## Outcomes -/

/-- Why a command failed: texts from the outermost to the innermost cause. -/
structure CommandError where
  outermost : String
  causes : List String := []
  deriving DecidableEq, Repr

/-- The lines of a text. -/
def textLines (text : String) : List String := (text.toList.splitOn '\n').map String.ofList

/-- The lines of a text in which every line has an end. -/
def wholeLines (text : String) : List String := (textLines text).dropLast

/-- The lines that report a failed command. -/
def CommandError.report (problem : CommandError) : List String :=
  textLines ("Error: " ++ problem.outermost) ++
    (if problem.causes = [] then []
      else ["", "Caused by:"] ++
        (problem.causes.flatMap textLines).map ("    " ++ ·))

/-- What a command leaves behind. -/
structure CommandResult where
  result : Except CommandError Unit := .ok ()
  stdout : String := ""
  stderr : List String := []
  directory : Directory

/-- The exit code of a command. -/
def CommandResult.code (result : CommandResult) : Nat :=
  match result.result with
  | .ok () => 0
  | .error _ => 1

/-- Everything a command writes to the error output. -/
def CommandResult.errorLines (result : CommandResult) : List String :=
  result.stderr ++
    match result.result with
    | .ok () => []
    | .error problem => problem.report

namespace Command

/-- The error of a configuration that cannot be used. -/
def configError (problem : ConfigError) : CommandError :=
  ⟨"resolving configuration", [(BridgeError.config problem.message).message]⟩

/-- The counters of a run as it prints them at its end. -/
def statsLines (stats : Stats) : List String :=
  ["ticks:     " ++ stats.ticks.repr, "delivered: " ++ stats.delivered.repr,
      "dropped:   " ++ stats.dropped.repr] ++
    Device.all.filterMap fun device =>
      let failures := stats.failures.get device
      if failures = 0 then none else some (device.name ++ " scan failures: " ++ failures.repr)

/-- The worker of a poller makes so many ticks, one after the other. -/
def workerTicks {β σ : Type} [RegisterBus β] [EventSink σ] :
    Nat → Poller β σ → Poller β σ
  | 0, poller => poller
  | n + 1, poller => workerTicks n (poller.look.turn (.tick none)).value.1

/-- Polls an idle machine for so many ticks. Gives the counters and the sink. -/
def pollIdle {σ : Type} [EventSink σ] (config : Config) (sink : σ) (ticks : Nat) :
    Except CommandError (Stats × σ) :=
  let machine := idleMachine (.forChipset config.chipset)
  match (Poller.new machine sink config).start.value with
  | (.error problem, _) => .error ⟨"starting input poller", [problem.message]⟩
  | (.ok (), poller) =>
    match ((workerTicks ticks poller).stop .sleep).value with
    | (.error problem, _) => .error ⟨"stopping input poller", [problem.message]⟩
    | (.ok stats, stopped) =>
      .ok (stats.getD {}, (stopped.session.map (·.sink)).getD sink)

/-- Checks the devices of an idle machine. Gives the verdict and what was printed. -/
def checkIdle (config : Config) : Except CommandError Unit × String :=
  let report := Diagnostics.run config (idleMachine (.forChipset config.chipset)) {}
  let verdict := match report.failed with
    | .ok 0 => .ok ()
    | .ok failed => .error ⟨failed.repr ++ " device(s) failed", []⟩
    | .error stop => .error ⟨(stop.chain.head?).getD "", stop.chain.tail⟩
  (verdict, report.writer.text)

/-- The line that says where the drawing of the matrix went. -/
def writtenLine (path : String) : String := "Keymap written to " ++ path ++ "\n"

/-- The error of a file that could not be written. -/
def writeError (path : String) (cause : FileError) : CommandError :=
  ⟨"writing " ++ path, [cause.message]⟩

/-- Runs a command in a directory. A run makes `ticks` ticks before its time is over. -/
def execute (directory : Directory) (ticks : Nat) : Command → CommandResult
  | .run devices events _ =>
    match devices.resolve directory.readText with
    | .error problem => { result := .error (configError problem), directory }
    | .ok config =>
      match events with
      | .log =>
        match pollIdle config ({} : LogSink) ticks with
        | .error problem => { result := .error problem, directory }
        | .ok (stats, _) => { stderr := statsLines stats, directory }
      | .json =>
        match pollIdle config ({} : JsonLinesSink) ticks with
        | .error problem => { result := .error problem, directory }
        | .ok (stats, sink) =>
          { stdout := sink.writer.text, stderr := statsLines stats, directory }
  | .test devices =>
    match devices.resolve directory.readText with
    | .error problem => { result := .error (configError problem), directory }
    | .ok config =>
      let (result, stdout) := checkIdle config
      { result, stdout, directory }
  | .keymap none => { stdout := KeyMap.standard.listing, directory }
  | .keymap (some path) =>
    let drawing := Drawing.render .standard
    match directory.destination path with
    | .error cause => { result := .error (writeError path cause), directory }
    | .ok (.file name) => { stdout := writtenLine path, directory := directory.put name drawing }
    | .ok .output => { stdout := drawing ++ writtenLine path, directory }
    | .ok .errors => { stdout := writtenLine path, stderr := wholeLines drawing, directory }
    | .ok .away => { stdout := writtenLine path, directory }

end Command

end InputBridge
