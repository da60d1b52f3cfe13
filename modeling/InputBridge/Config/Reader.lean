import InputBridge.Config.Basic
import InputBridge.Config.Token

/-!
# Reading a configuration

A configuration is written as a JSON object that names some of the fields, in any
order, or as a JSON array that gives the first fields in order. The tokens of the
text are read from left to right and the first problem decides:

* a name is judged when it is read, before anything that follows it;
* a value of the wrong type is refused where it begins;
* a chipset is its name, or an object whose only member has that name and is null;
* after the value nothing may follow.

Every reader takes a list of tokens and gives what it read with the tokens that
are left, or the problem it met. What was read is then validated.
-/

namespace InputBridge

open Json (Token tokens)

/-- A field of a configuration. -/
inductive ConfigField where
  | pollInterval
  | idleSleep
  | settle
  | chipset
  | mousePorts
  | maxMouseDelta
  | keyboard
  | mouse
  | lightpen
  deriving DecidableEq, Repr

namespace ConfigField

/-- Every field, in the order in which an array gives them. -/
def all : List ConfigField :=
  [.pollInterval, .idleSleep, .settle, .chipset, .mousePorts, .maxMouseDelta, .keyboard, .mouse,
    .lightpen]

/-- The name of a field in an object. -/
def name : ConfigField → String
  | .pollInterval => "poll_interval_us"
  | .idleSleep => "idle_sleep_us"
  | .settle => "settle_us"
  | .chipset => "chipset"
  | .mousePorts => "mouse_ports"
  | .maxMouseDelta => "max_mouse_delta"
  | .keyboard => "keyboard"
  | .mouse => "mouse"
  | .lightpen => "lightpen"

/-- The field with a name. -/
def named? (name : String) : Option ConfigField := all.find? (·.name = name)

end ConfigField

namespace Config

/-- A value with the tokens that are left after it. -/
abbrev Parsed (α : Type) := α × List Token

/-! ## Values -/

/-- What is wrong where a value of another type was expected. -/
def unexpected : List Token → ReadProblem
  | .text _ :: _ | .integer _ :: _ | .fraction :: _ | .truth _ :: _ | .null :: _
  | .openBrace :: _ | .openBracket :: _ => .wrongType
  | _ => .malformed

/-- Reads an integer from `low` to `high`. -/
def readInteger (low high : Int) : List Token → Except ReadProblem (Parsed Int)
  | .integer value :: rest =>
    if low ≤ value ∧ value ≤ high then .ok (value, rest) else .error .outOfRange
  | ts => .error (unexpected ts)

/-- Reads a time in microseconds. -/
def readMicros (ts : List Token) : Except ReadProblem (Parsed UInt64) := do
  let (value, rest) ← readInteger 0 (UInt64.size - 1) ts
  return (UInt64.ofNat value.toNat, rest)

/-- Reads a bound on motion. -/
def readDelta (ts : List Token) : Except ReadProblem (Parsed Int32) := do
  let (value, rest) ← readInteger Int32.minValue.toInt Int32.maxValue.toInt ts
  return (Int32.ofInt value, rest)

/-- Reads `true` or `false`. -/
def readSwitch : List Token → Except ReadProblem (Parsed Bool)
  | .truth value :: rest => .ok (value, rest)
  | ts => .error (unexpected ts)

/-- Reads the number of a port. -/
def readPort (ts : List Token) : Except ReadProblem (Parsed Port) := do
  let (value, rest) ← readInteger 0 255 ts
  match Port.numbered value.toNat with
  | .ok port => return (port, rest)
  | .error unknown => throw (.unknownPort unknown)

/-- Reads ports, separated by commas, up to the closing bracket. -/
def readPortsFrom : List Token → Except ReadProblem (Parsed (List Port))
  | [] => .error .malformed
  | t :: rest => do
    let (port, _) ← readPort [t]
    match rest with
    | .closeBracket :: rest => return ([port], rest)
    | .comma :: rest =>
      let (ports, rest) ← readPortsFrom rest
      return (port :: ports, rest)
    | _ => throw .malformed

/-- Reads a list of ports. -/
def readPorts : List Token → Except ReadProblem (Parsed (List Port))
  | .openBracket :: .closeBracket :: rest => .ok ([], rest)
  | .openBracket :: rest => readPortsFrom rest
  | ts => .error (unexpected ts)

/-- The chipset with this name. -/
def chipsetNamed (name : String) : Except ReadProblem Chipset :=
  match Chipset.named? name with
  | some chipset => .ok chipset
  | none => .error (.unknownChipset name)

/-- Reads a chipset. Anything but a string or an object with a named member is malformed. -/
def readChipset : List Token → Except ReadProblem (Parsed Chipset)
  | .text name :: rest => do return (← chipsetNamed name, rest)
  | .openBrace :: .text name :: rest => do
    let chipset ← chipsetNamed name
    match rest with
    | .colon :: .null :: .closeBrace :: rest => return (chipset, rest)
    | .colon :: .null :: _ => throw .malformed
    | .colon :: rest => throw (unexpected rest)
    | _ => throw .malformed
  | _ => .error .malformed

/-- Reads the value of a field into a configuration. -/
def readField (config : Config) (ts : List Token) :
    ConfigField → Except ReadProblem (Parsed Config)
  | .pollInterval => do
    let (pollInterval, rest) ← readMicros ts
    return ({ config with pollInterval }, rest)
  | .idleSleep => do
    let (idleSleep, rest) ← readMicros ts
    return ({ config with idleSleep }, rest)
  | .settle => do
    let (settle, rest) ← readMicros ts
    return ({ config with settle }, rest)
  | .chipset => do
    let (chipset, rest) ← readChipset ts
    return ({ config with chipset }, rest)
  | .mousePorts => do
    let (mousePorts, rest) ← readPorts ts
    return ({ config with mousePorts }, rest)
  | .maxMouseDelta => do
    let (maxMouseDelta, rest) ← readDelta ts
    return ({ config with maxMouseDelta }, rest)
  | .keyboard => do
    let (keyboard, rest) ← readSwitch ts
    return ({ config with keyboard }, rest)
  | .mouse => do
    let (mouse, rest) ← readSwitch ts
    return ({ config with mouse }, rest)
  | .lightpen => do
    let (lightpen, rest) ← readSwitch ts
    return ({ config with lightpen }, rest)

/-! ## Objects and arrays -/

/-- The field that a member name stands for, if it is a new one. -/
def newField (seen : List ConfigField) (name : String) : Except ReadProblem ConfigField :=
  match ConfigField.named? name with
  | none => .error (.unknownField name)
  | some field => if field ∈ seen then .error (.repeatedField name) else .ok field

/-- Reads members up to the closing brace. `unread` bounds the number of fields
that are still to come, since each field is read once. -/
def readMembers (unread : Nat) (seen : List ConfigField) (config : Config) :
    List Token → Except ReadProblem (Parsed Config)
  | .text name :: rest => do
    let field ← newField seen name
    match unread, rest with
    | unread + 1, .colon :: rest =>
      let (config, rest) ← readField config rest field
      match rest with
      | .closeBrace :: rest => return (config, rest)
      | .comma :: rest => readMembers unread (field :: seen) config rest
      | _ => throw .malformed
    | _, _ => throw .malformed
  | _ => .error .malformed
termination_by unread

/-- Reads the elements of an array into the given fields, up to the closing bracket. -/
def readElements (config : Config) (ts : List Token) :
    List ConfigField → Except ReadProblem (Parsed Config)
  | [] => .error .malformed
  | field :: fields => do
    let (config, rest) ← readField config ts field
    match rest with
    | .closeBracket :: rest => return (config, rest)
    | .comma :: rest => readElements config rest fields
    | _ => throw .malformed

/-- Reads a configuration. -/
def readConfig : List Token → Except ReadProblem (Parsed Config)
  | .openBrace :: .closeBrace :: rest => .ok ({}, rest)
  | .openBrace :: rest => readMembers ConfigField.all.length [] {} rest
  | .openBracket :: .closeBracket :: rest => .ok ({}, rest)
  | .openBracket :: rest => readElements {} rest ConfigField.all
  | ts => .error (unexpected ts)

/-- Reads a whole text: a configuration and nothing else. -/
def readText (text : List Char) : Except ReadProblem Config := do
  let (config, rest) ← readConfig (tokens text)
  if rest = [] then return config else throw .malformed

/-- The configuration that a text gives, if it is a valid one. -/
def parse (text : String) : Except ConfigError Config :=
  match readText text.toList with
  | .error problem => .error (.malformed problem)
  | .ok config =>
    match config.validate with
    | .error problem => .error problem
    | .ok () => .ok config

end Config

end InputBridge
