import InputBridge.Device.Port
import InputBridge.Registers

/-!
# Command lines

A command line names one of three commands and its options. `parse` gives the
invocation that a list of arguments stands for, or nothing if they are to be
rejected:

* an option has its value after an equals sign or as the next argument, and the
  next argument must then not look like an option itself;
* an option may be given once, except for mouse ports and `-v`;
* `-v` may stand before or after the command; nothing but options follows it.
-/

namespace InputBridge

/-- Where the events of a run go. -/
inductive EventOutput where
  | log
  | json
  deriving DecidableEq, Repr

/-- The options about devices. Those that are given override the configuration file. -/
structure DeviceOptions where
  configPath : Option String := none
  interval : Option UInt64 := none
  chipset : Option Chipset := none
  mousePorts : List Port := []
  maxDelta : Option Int32 := none
  noLightpen : Bool := false
  deriving DecidableEq

/-- A command with its options. -/
inductive Command where
  | run (devices : DeviceOptions) (events : EventOutput) (seconds : Option UInt64)
  | test (devices : DeviceOptions)
  | keymap (svgPath : Option String)
  deriving DecidableEq

/-- A command, and how much is to be logged. -/
structure Invocation where
  command : Command
  verbosity : Nat
  deriving DecidableEq

namespace CommandLine

/-! ## Commands and options -/

/-- The name of a command. -/
inductive Verb where
  | run
  | test
  | keymap
  deriving DecidableEq, Repr

/-- The command with a name. -/
def Verb.named? : String → Option Verb
  | "run" => some .run
  | "test" => some .test
  | "keymap" => some .keymap
  | _ => none

/-- An option. -/
inductive Flag where
  | verbose
  | config
  | interval
  | chipset
  | mousePort
  | maxDelta
  | noLightpen
  | events
  | duration
  | svg
  deriving DecidableEq, Repr

namespace Flag

/-- The option with a long name. -/
def named? : String → Option Flag
  | "verbose" => some .verbose
  | "config" => some .config
  | "interval-us" => some .interval
  | "chipset" => some .chipset
  | "mouse-port" => some .mousePort
  | "max-delta" => some .maxDelta
  | "no-lightpen" => some .noLightpen
  | "events" => some .events
  | "duration-secs" => some .duration
  | "svg" => some .svg
  | _ => none

/-- Does an option have a value? -/
def takesValue : Flag → Bool
  | .verbose | .noLightpen => false
  | _ => true

/-- May an option be given more than once? -/
def repeatable : Flag → Bool
  | .verbose | .mousePort => true
  | _ => false

/-- May an option be given to a command? -/
def allowed : Verb → Flag → Bool
  | _, .verbose => true
  | .keymap, flag => flag = .svg
  | .run, flag => flag ≠ .svg
  | .test, flag => flag ≠ .svg && flag ≠ .events && flag ≠ .duration

end Flag

/-! ## Arguments -/

/-- What one argument is by its look. -/
inductive Argument where
  /-- Two dashes: no option follows. -/
  | separator
  /-- A long option, perhaps with a value after an equals sign. -/
  | long (name : String) (value : Option String)
  /-- The letters of short options. -/
  | short (letters : List Char)
  /-- Anything else. -/
  | plain (text : String)
  deriving DecidableEq, Repr

/-- What an argument is by its look. A single dash is plain. -/
def Argument.ofText (text : String) : Argument :=
  match text.toList with
  | ['-', '-'] => .separator
  | '-' :: '-' :: body =>
    let name := String.ofList (body.takeWhile (· ≠ '='))
    match body.dropWhile (· ≠ '=') with
    | [] => .long name none
    | _ :: value => .long name (some (String.ofList value))
  | '-' :: c :: letters => .short (c :: letters)
  | _ => .plain text

/-- The options in a list of arguments, in order; one without a value has an empty one. -/
def gather : List String → Option (List (Flag × String))
  | [] => some []
  | arg :: rest =>
    match Argument.ofText arg with
    | .separator => if rest = [] then some [] else none
    | .plain _ => none
    | .short letters =>
      if letters.all (· = 'v') then
        (gather rest).map (letters.map (fun _ => (Flag.verbose, "")) ++ ·)
      else none
    | .long name value =>
      match Flag.named? name, value with
      | none, _ => none
      | some flag, some value =>
        if flag.takesValue then (gather rest).map ((flag, value) :: ·) else none
      | some flag, none =>
        if flag.takesValue then
          match rest with
          | [] => none
          | value :: rest =>
            match Argument.ofText value with
            | .plain value => (gather rest).map ((flag, value) :: ·)
            | _ => none
        else (gather rest).map ((flag, "") :: ·)

/-! ## Values -/

/-- Reads a natural number: decimal digits, perhaps after a plus sign. -/
def natural? (text : String) : Option Nat :=
  let digits := match text.toList with
    | '+' :: digits => digits
    | digits => digits
  if digits ≠ [] ∧ digits.all Char.isDigit then some (Nat.ofDigitChars 10 digits 0) else none

/-- Reads an integer: a natural number, or digits after a minus sign. -/
def integer? (text : String) : Option Int :=
  match text.toList with
  | '-' :: digits =>
    if digits ≠ [] ∧ digits.all Char.isDigit then some (-(Nat.ofDigitChars 10 digits 0)) else none
  | _ => (natural? text).map Int.ofNat

/-- Reads a 64-bit count. -/
def count? (text : String) : Option UInt64 := do
  let n ← natural? text
  if n < UInt64.size then some (UInt64.ofNat n) else none

/-- Reads a 32-bit bound. -/
def bound? (text : String) : Option Int32 := do
  let n ← integer? text
  if Int32.minValue.toInt ≤ n ∧ n ≤ Int32.maxValue.toInt then some (Int32.ofInt n) else none

/-- Reads a port. -/
def port? (text : String) : Option Port := do
  match ← integer? text with
  | 0 => some .port0
  | 1 => some .port1
  | _ => none

/-- Reads a path, which must not be empty. -/
def path? (text : String) : Option String := if text = "" then none else some text

/-- Reads where events go. -/
def events? : String → Option EventOutput
  | "log" => some .log
  | "json" => some .json
  | _ => none

/-- The value of an option that may be given once: none if it is given with a
value that cannot be read. -/
def single {α : Type} (given : List (Flag × String)) (flag : Flag) (read : String → Option α) :
    Option (Option α) :=
  match given.lookup flag with
  | none => some none
  | some text => (read text).map some

/-! ## Parsing -/

/-- The options about devices. -/
def deviceOptions (given : List (Flag × String)) : Option DeviceOptions := do
  let ports := given.filterMap fun (flag, text) => if flag = .mousePort then some text else none
  return {
    configPath := ← single given .config path?
    interval := ← single given .interval count?
    chipset := ← single given .chipset fun text => (Chipset.parse text).toOption
    mousePorts := ← ports.mapM port?
    maxDelta := ← single given .maxDelta bound?
    noLightpen := given.any (·.1 = .noLightpen) }

/-- The command that a verb and its options stand for. -/
def commandOf (given : List (Flag × String)) : Verb → Option Command
  | .run => do
    let devices ← deviceOptions given
    let events ← single given .events events?
    let seconds ← single given .duration count?
    return .run devices (events.getD .log) seconds
  | .test => do return .test (← deviceOptions given)
  | .keymap => do return .keymap (← single given .svg path?)

/-- Is no option given more often than it may be? -/
def givenOnce (given : List (Flag × String)) : Bool :=
  given.all fun (flag, _) => flag.repeatable || given.countP (·.1 = flag) ≤ 1

/-- The letters of the `-v` options in front of the command, and what follows them. -/
def leadingVerbosity : List String → Option (Nat × List String)
  | [] => none
  | arg :: rest =>
    match Argument.ofText arg with
    | .plain _ => some (0, arg :: rest)
    | .short letters =>
      if letters.all (· = 'v') then
        (leadingVerbosity rest).map fun (count, rest) => (letters.length + count, rest)
      else none
    | .long "verbose" none => (leadingVerbosity rest).map fun (count, rest) => (count + 1, rest)
    | _ => none

/-- The invocation that arguments stand for. -/
def parse (args : List String) : Option Invocation := do
  let (leading, rest) ← leadingVerbosity args
  match rest with
  | [] => none
  | name :: rest =>
    let verb ← Verb.named? name
    let given ← gather rest
    if given.all (Flag.allowed verb ·.1) && givenOnce given then
      let command ← commandOf given verb
      return { command, verbosity := leading + given.countP (·.1 = .verbose) }
    else none

end CommandLine

end InputBridge
