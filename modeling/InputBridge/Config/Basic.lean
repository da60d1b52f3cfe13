import InputBridge.Device.Port
import InputBridge.Registers
import InputBridge.Text.Numeral

/-!
# Configuration

What a session is set up with. Every field has a default, so that a
configuration only names what differs. `validate` gives the first of four
conditions that a configuration violates; each violation is a cause of its own,
with its wording in `ConfigError.message`.
-/

namespace InputBridge

/-- The set-up of a session. Times are in microseconds. -/
structure Config where
  /-- Time from one tick to the next. -/
  pollInterval : UInt64 := 16670
  /-- Sleep of the worker between two looks at the clock. -/
  idleSleep : UInt64 := 500
  /-- Wait between selecting a keyboard column and reading its rows. -/
  settle : UInt64 := 100
  chipset : Chipset := .ocs
  mousePorts : List Port := [.port0]
  /-- Bound on the motion reported per axis and tick. -/
  maxMouseDelta : Int32 := 127
  keyboard : Bool := true
  mouse : Bool := true
  lightpen : Bool := true
  deriving DecidableEq

/-- A time in microseconds as nanoseconds. -/
def nanoseconds (micros : UInt64) : Nat := micros.toNat * 1000

/-- What is wrong with the text of a configuration. -/
inductive ReadProblem where
  /-- The text is no JSON value, or has the wrong shape. -/
  | malformed
  /-- A value of the wrong JSON type. -/
  | wrongType
  /-- An integer outside the range of its field. -/
  | outOfRange
  | unknownPort (unknown : UnknownPort)
  | unknownField (name : String)
  | repeatedField (name : String)
  | unknownChipset (name : String)
  deriving DecidableEq, Repr

/-- The wording of a problem with the text. -/
def ReadProblem.message : ReadProblem → String
  | .malformed => "syntax"
  | .wrongType => "invalid type"
  | .outOfRange => "invalid value"
  | .unknownPort unknown => unknown.message
  | .unknownField name => "unknown field `" ++ name ++ "`"
  | .repeatedField name => "duplicate field `" ++ name ++ "`"
  | .unknownChipset name => "unknown variant `" ++ name ++ "`"

/-- Why a configuration cannot be used. -/
inductive ConfigError where
  | zeroInterval
  | deltaNotPositive
  | repeatedPort (port : Port)
  | nothingEnabled
  | malformed (problem : ReadProblem)
  | unreadable (path reason : String)
  deriving DecidableEq, Repr

/-- The wording of a configuration error. -/
def ConfigError.message : ConfigError → String
  | .zeroInterval => "poll_interval_us must be greater than zero"
  | .deltaNotPositive => "max_mouse_delta must be greater than zero"
  | .repeatedPort port => "mouse port " ++ port.index.repr ++ " listed more than once"
  | .nothingEnabled => "every device is disabled"
  | .malformed problem => "malformed config: " ++ problem.message
  | .unreadable path reason => "cannot read " ++ path ++ ": " ++ reason

/-- The first port that stands in the list, or among `earlier`, before its place. -/
def firstRepeated (earlier : List Port) : List Port → Option Port
  | [] => none
  | port :: rest =>
    if port ∈ earlier then some port else firstRepeated (earlier ++ [port]) rest

namespace Config

/-- The first condition that a configuration violates: the interval and the bound
are positive, no port is listed twice, some device is enabled. -/
def validate (config : Config) : Except ConfigError Unit :=
  if config.pollInterval = 0 then .error .zeroInterval
  else if config.maxMouseDelta ≤ 0 then .error .deltaNotPositive
  else
    match firstRepeated [] config.mousePorts with
    | some port => .error (.repeatedPort port)
    | none =>
      if config.keyboard || config.mouse || config.lightpen then .ok ()
      else .error .nothingEnabled

end Config

end InputBridge
