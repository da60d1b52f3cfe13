import InputBridge.Bus.Program
import InputBridge.Device.Motion
import InputBridge.Device.Port
import InputBridge.Event.Group
import InputBridge.Registers

/-!
# Mice on the game ports

Each game port has two 8-bit counters that run freely as the ball turns,
vertical in the high byte and horizontal in the low byte of one word, and three
buttons that are low while pressed. A poll visits every enabled port. Motion and
buttons of a port are read separately, and a failure of one does not keep the
other, or another port, from being reported; the first failure is the result of
the poll.
-/

namespace InputBridge

/-! ## Buttons -/

/-- Bit of the left button in a set of buttons. -/
def leftBit : UInt8 := 0x01

/-- Bit of the right button. -/
def rightBit : UInt8 := 0x02

/-- Bit of the middle button. -/
def middleBit : UInt8 := 0x04

/-- The buttons of a mouse with their bits, in the order they are reported. -/
def mouseButtons : List (UInt8 × Button) :=
  [(leftBit, .left), (rightBit, .right), (middleBit, .middle)]

/-- The edges from the buttons in `changed`, which are now as in `pressed`. -/
def buttonEdges (changed pressed : UInt8) : List Event :=
  mouseButtons.filterMap fun (bit, button) =>
    if changed &&& bit = 0 then none else some (.button button (pressed &&& bit != 0))

/-! ## One mouse -/

/-- Position and buttons of one mouse. -/
structure MouseState where
  x : Axis := {}
  y : Axis := {}
  /-- Bits of the buttons that are down. -/
  buttons : UInt8 := 0
  /-- The counters as last read, horizontal first; none before the first read. -/
  latched : Option (UInt8 × UInt8) := none
  deriving DecidableEq

namespace MouseState

/-- Adds one movement and gives what to report of it, each axis on its own. -/
def accumulate (state : MouseState) (dx dy bound : Int32) : (Int32 × Int32) × MouseState :=
  let (reportX, x) := state.x.advance dx bound
  let (reportY, y) := state.y.advance dy bound
  ((reportX, reportY), { state with x, y })

/-- Motion not yet reported, per axis. -/
def pending (state : MouseState) : Int32 × Int32 := (state.x.pending, state.y.pending)

/-- Stores the buttons and gives the bits that changed. -/
def updateButtons (state : MouseState) (buttons : UInt8) : UInt8 × MouseState :=
  (buttons ^^^ state.buttons, { state with buttons })

/-- Latches a counter word and gives the movement since the one before, per axis.
The first word only primes the latch. -/
def latch (state : MouseState) (word : UInt16) : (Int8 × Int8) × MouseState :=
  let x := word.toUInt8
  let y := (word >>> 8).toUInt8
  let moved := match state.latched with
    | some (lastX, lastY) => ((x - lastX).toInt8, (y - lastY).toInt8)
    | none => (0, 0)
  (moved, { state with latched := some (x, y) })

end MouseState

/-! ## The ports of a machine -/

/-- Where the counters and buttons of a port are. -/
structure PortLines where
  counters : Address
  fire : Address
  fireBit : UInt8
  pot : Address
  rightBit : UInt16
  middleBit : UInt16

/-- The lines of a port. -/
def Port.lines (map : RegisterMap) : Port → PortLines
  | .port0 => ⟨map.joy0dat, map.ciaaPra, fireBit0, map.potgor, potRight0, potMiddle0⟩
  | .port1 => ⟨map.joy1dat, map.ciaaPra, fireBit1, map.potgor, potRight1, potMiddle1⟩

/-- The buttons that are down, from the levels of their lines. -/
def PortLines.pressed (lines : PortLines) (fire : UInt8) (pot : UInt16) : UInt8 :=
  (if fire &&& lines.fireBit = 0 then leftBit else 0) |||
    (if pot &&& lines.rightBit = 0 then InputBridge.rightBit else 0) |||
    (if pot &&& lines.middleBit = 0 then InputBridge.middleBit else 0)

/-- The mice on the enabled ports. -/
structure Mouse where
  map : RegisterMap
  /-- The enabled ports, in the order they are polled. A port that is listed twice
  is polled twice and still has one state. -/
  ports : List Port
  /-- Bound on a report. -/
  maxDelta : Int32
  state0 : MouseState := {}
  state1 : MouseState := {}

namespace Mouse

variable {ω : Type}

/-- Mice that have not been read yet. -/
def new (map : RegisterMap) (ports : List Port) (maxDelta : Int32) : Mouse :=
  { map, ports, maxDelta }

/-- The state of a port, enabled or not. -/
def stateOf (mouse : Mouse) : Port → MouseState
  | .port0 => mouse.state0
  | .port1 => mouse.state1

/-- Replaces the state of a port. -/
def setState (mouse : Mouse) (port : Port) (state : MouseState) : Mouse :=
  match port with
  | .port0 => { mouse with state0 := state }
  | .port1 => { mouse with state1 := state }

@[simp] theorem stateOf_setState_self (mouse : Mouse) (port : Port) (state : MouseState) :
    (mouse.setState port state).stateOf port = state := by cases port <;> rfl

theorem stateOf_setState_ne (mouse : Mouse) {port other : Port} (state : MouseState)
    (h : other ≠ port) : (mouse.setState port state).stateOf other = mouse.stateOf other := by
  cases port <;> cases other <;> first | rfl | exact absurd rfl h

@[simp] theorem setState_setState (mouse : Mouse) (port : Port) (state later : MouseState) :
    (mouse.setState port state).setState port later = mouse.setState port later := by
  cases port <;> rfl

@[simp] theorem map_setState (mouse : Mouse) (port : Port) (state : MouseState) :
    (mouse.setState port state).map = mouse.map := by cases port <;> rfl

@[simp] theorem ports_setState (mouse : Mouse) (port : Port) (state : MouseState) :
    (mouse.setState port state).ports = mouse.ports := by cases port <;> rfl

@[simp] theorem maxDelta_setState (mouse : Mouse) (port : Port) (state : MouseState) :
    (mouse.setState port state).maxDelta = mouse.maxDelta := by cases port <;> rfl

/-- The state of a port if it is enabled. -/
def state? (mouse : Mouse) (port : Port) : Option MouseState :=
  if port ∈ mouse.ports then some (mouse.stateOf port) else none

/-- The fire lines of the enabled ports. -/
def fireBits (mouse : Mouse) : UInt8 :=
  mouse.ports.foldl (fun bits port => bits ||| (port.lines mouse.map).fireBit) 0

/-- Turns the fire lines of the enabled ports into inputs and leaves the other
directions alone. -/
def setUp (mouse : Mouse) : Attempt ω Unit := do
  let direction ← Attempt.readByte mouse.map.ciaaDdra
  Attempt.writeByte mouse.map.ciaaDdra (direction &&& ~~~mouse.fireBits)

/-- Reads the counters of a port: its movement since the last read. A port that
is not enabled is not read and does not move. -/
def readCounters (mouse : Mouse) (port : Port) : Attempt ω ((Int8 × Int8) × Mouse) := do
  if port ∈ mouse.ports then
    let word ← Attempt.readWord (port.lines mouse.map).counters
    let (moved, state) := (mouse.stateOf port).latch word
    return (moved, mouse.setState port state)
  else return ((0, 0), mouse)

/-- Reads the buttons of a port, enabled or not. -/
def readButtons (mouse : Mouse) (port : Port) : Attempt ω UInt8 := do
  let lines := port.lines mouse.map
  let fire ← Attempt.readByte lines.fire
  let pot ← Attempt.readWord lines.pot
  return lines.pressed fire pot

/-- What is said of reported motion: a move per axis that moved, and a note if a
report was made and motion is still pending. -/
def motionRemarks (port : Port) (report pending : Int32 × Int32) : List Remark :=
  (if report.1 = 0 then [] else [.event (.relative .x report.1)]) ++
    (if report.2 = 0 then [] else [.event (.relative .y report.2)]) ++
    (if report = (0, 0) ∨ pending = (0, 0) then []
      else [.note (.motionBounded port pending.1 pending.2)])

/-- Adds a movement of a port and reports it. -/
def reportMotion (mouse : Mouse) (port : Port) (moved : Int8 × Int8) : Program Remark Mouse := do
  let (report, state) :=
    (mouse.stateOf port).accumulate moved.1.toInt32 moved.2.toInt32 mouse.maxDelta
  Program.remarks (motionRemarks port report state.pending)
  return mouse.setState port state

/-- Stores the buttons of a port and reports those that changed. -/
def reportButtons (mouse : Mouse) (port : Port) (buttons : UInt8) : Program Remark Mouse := do
  let (changed, state) := (mouse.stateOf port).updateButtons buttons
  Program.remarks ((buttonEdges changed buttons).map .event)
  return mouse.setState port state

/-- Polls the motion of a port. -/
def pollMotion (mouse : Mouse) (port : Port) : Program Remark (Option BusError × Mouse) := do
  match ← (mouse.readCounters port).run with
  | .error cause => return (some cause, mouse)
  | .ok (moved, mouse) => return (none, ← mouse.reportMotion port moved)

/-- Polls the buttons of a port. -/
def pollButtons (mouse : Mouse) (port : Port) : Program Remark (Option BusError × Mouse) := do
  match ← (mouse.readButtons port).run with
  | .error cause => return (some cause, mouse)
  | .ok buttons => return (none, ← mouse.reportButtons port buttons)

/-- Polls ports one after the other, and gives the first failure. -/
def pollPorts (mouse : Mouse) : List Port → Program Remark (Option BusError × Mouse)
  | [] => return (none, mouse)
  | port :: rest => do
    let (motionFailure, mouse) ← mouse.pollMotion port
    let (buttonFailure, mouse) ← mouse.pollButtons port
    let (laterFailure, mouse) ← mouse.pollPorts rest
    return ((motionFailure.or buttonFailure).or laterFailure, mouse)

/-- Polls every enabled port once. -/
def poll (mouse : Mouse) : Program Remark (Except BusError Unit × Mouse) := do
  let (failure, mouse) ← mouse.pollPorts mouse.ports
  match failure with
  | some cause => return (.error cause, mouse)
  | none => return (.ok (), mouse)

end Mouse

end InputBridge
