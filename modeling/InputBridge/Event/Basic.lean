import InputBridge.Text.Numeral
import InputBridge.Matrix.Key

/-!
# Input events

What a device has to tell the host: a key or button edge, a relative or an
absolute move, or the sync that ends a group of changes which belong together.
`Event.raw` is the form that the host's input subsystem numbers events in.
-/

namespace InputBridge

/-- Pointer and stylus buttons. -/
inductive Button where
  | left
  | right
  | middle
  /-- The tip of the lightpen. -/
  | touch
  /-- The pen as a tool, sent next to its tip. -/
  | toolPen
  deriving DecidableEq, Repr

namespace Button

/-- The code of a button in the host's input subsystem. -/
def code : Button → UInt16
  | .left => 0x110
  | .right => 0x111
  | .middle => 0x112
  | .touch => 0x14A
  | .toolPen => 0x140

/-- The name of a button. -/
def name : Button → String
  | .left => "Left"
  | .right => "Right"
  | .middle => "Middle"
  | .touch => "Touch"
  | .toolPen => "ToolPen"

end Button

/-- Axes of relative motion. -/
inductive RelativeAxis where
  | x
  | y
  deriving DecidableEq, Repr

namespace RelativeAxis

/-- The code of a relative axis. -/
def code : RelativeAxis → UInt16
  | .x => 0x00
  | .y => 0x01

/-- The name of a relative axis. -/
def name : RelativeAxis → String
  | .x => "X"
  | .y => "Y"

end RelativeAxis

/-- Axes with absolute values. -/
inductive AbsoluteAxis where
  | x
  | y
  | pressure
  deriving DecidableEq, Repr

namespace AbsoluteAxis

/-- The code of an absolute axis. -/
def code : AbsoluteAxis → UInt16
  | .x => 0x00
  | .y => 0x01
  | .pressure => 0x18

/-- The name of an absolute axis. -/
def name : AbsoluteAxis → String
  | .x => "X"
  | .y => "Y"
  | .pressure => "Pressure"

end AbsoluteAxis

/-- One input event. -/
inductive Event where
  | key (key : Key) (pressed : Bool)
  | button (button : Button) (pressed : Bool)
  | relative (axis : RelativeAxis) (delta : Int32)
  | absolute (axis : AbsoluteAxis) (value : Int32)
  /-- End of a group of changes. -/
  | sync
  deriving DecidableEq

/-- An event as three numbers. -/
structure RawEvent where
  kind : UInt16
  code : UInt16
  value : Int32
  deriving DecidableEq

namespace Event

/-- The value of an edge: 1 for a press, 0 for a release. -/
def edgeValue : Bool → Int32
  | true => 1
  | false => 0

/-- The three numbers of an event. -/
def raw : Event → RawEvent
  | .key which pressed => ⟨1, which.code, edgeValue pressed⟩
  | .button which pressed => ⟨1, which.code, edgeValue pressed⟩
  | .relative axis delta => ⟨2, axis.code, delta⟩
  | .absolute axis value => ⟨3, axis.code, value⟩
  | .sync => ⟨0, 0, 0⟩

/-- Does this event end a group? -/
def isSync : Event → Bool
  | .sync => true
  | _ => false

/-- A field of a structured text, after its name. -/
def field (name value : String) : String := name ++ ": " ++ value

/-- A structured text: a head and two fields in braces. -/
def described (head first second : String) : String :=
  head ++ " \x7b " ++ first ++ ", " ++ second ++ " \x7d"

/-- The event as log records show it. -/
def text : Event → String
  | .key which pressed =>
    described "KeyEdge" (field "key" which.name) (field "pressed" (Text.truth pressed))
  | .button which pressed =>
    described "ButtonEdge" (field "button" which.name) (field "pressed" (Text.truth pressed))
  | .relative axis delta =>
    described "RelativeMove" (field "axis" axis.name) (field "delta" (Text.decimal delta.toInt))
  | .absolute axis value =>
    described "AbsoluteMove" (field "axis" axis.name) (field "value" (Text.decimal value.toInt))
  | .sync => "Sync"

end Event

end InputBridge
