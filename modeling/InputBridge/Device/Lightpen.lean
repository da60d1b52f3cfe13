import InputBridge.Bus.Program
import InputBridge.Event.Group
import InputBridge.Registers

/-!
# The lightpen

With the latch enabled, the beam counters stop when the pen sees the beam. While
the pen is seen, its position and one of two pressures are reported on every
poll, and the tip when it changes. When the pen goes away, a tip that was down
comes up once, and nothing more is said until the pen is seen again. A poll in
which any read fails says nothing and changes nothing.
-/

namespace InputBridge

/-- Width of the screen that positions refer to. -/
def screenWidth : Nat := 752

/-- Height of the screen that positions refer to. -/
def screenHeight : Nat := 568

/-- A beam position. -/
structure Beam where
  x : UInt16
  y : UInt16
  deriving DecidableEq, Repr

/-- The position in the latched counters. The high byte of VHPOSR counts pairs of
columns, its low byte is the low part of the line, and the low seven bits of
VPOSR are the high part of it. -/
def Beam.decode (vhposr vposr : UInt16) : Beam :=
  let pair : UInt16 := vhposr >>> 8
  let lineLow : UInt16 := vhposr &&& 0x00FF
  let lineHigh : UInt16 := vposr &&& 0x007F
  ⟨pair <<< 1, lineLow ||| lineHigh <<< 8⟩

/-- Is the pen seen? -/
inductive PenPhase where
  | idle
  | active
  deriving DecidableEq, Repr

/-- Where the pen was last seen, and its tip. -/
structure PenState where
  phase : PenPhase := .idle
  x : UInt16 := 0
  y : UInt16 := 0
  button : Bool := false
  deriving DecidableEq, Repr

/-- What one poll read of a pen that is seen. -/
structure PenSighting where
  beam : Beam
  tipDown : Bool
  deriving DecidableEq, Repr

namespace PenState

/-- Is the pen seen? -/
def detected (state : PenState) : Bool := state.phase = .active

/-- The pressure to report. -/
def pressure (tipDown : Bool) : Int32 := if tipDown then 255 else 128

/-- The edges of the tip and of the pen tool. -/
def tipEdges (pressed : Bool) : List Remark :=
  [.event (.button .touch pressed), .event (.button .toolPen pressed)]

/-- What is said when the pen is at `sighting`, or not seen. -/
def remarks (state : PenState) : Option PenSighting → List Remark
  | some ⟨beam, tipDown⟩ =>
    (if state.detected then [] else [.note (.penDetected beam.x beam.y)]) ++
      [.event (.absolute .x (Int32.ofNat beam.x.toNat)),
        .event (.absolute .y (Int32.ofNat beam.y.toNat)),
        .event (.absolute .pressure (pressure tipDown))] ++
      (if tipDown = state.button then [] else tipEdges tipDown)
  | none =>
    if state.detected then (if state.button then tipEdges false else []) ++ [.note .penLost]
    else []

/-- The state after the pen was at `sighting`, or not seen. A lost pen keeps its
last position. -/
def next (state : PenState) : Option PenSighting → PenState
  | some ⟨beam, tipDown⟩ => ⟨.active, beam.x, beam.y, tipDown⟩
  | none => if state.detected then { state with phase := .idle, button := false } else state

end PenState

/-- A lightpen and its state. -/
structure Lightpen where
  potgor : Address
  vposr : Address
  vhposr : Address
  joy0dat : Address
  bplcon0 : Address
  state : PenState := {}

namespace Lightpen

variable {ω : Type}

/-- The pen of a machine, not seen yet. -/
def new (map : RegisterMap) : Lightpen where
  potgor := map.potgor
  vposr := map.vposr
  vhposr := map.vhposr
  joy0dat := map.joy0dat
  bplcon0 := map.bplcon0

/-- Adds the enable bit of the latch to the bitplane control register. -/
def enableLatch (pen : Lightpen) : Attempt ω Unit := do
  let control ← Attempt.readWord pen.bplcon0
  Attempt.writeWord pen.bplcon0 (control ||| latchEnableBit)

/-- Enables the latch if possible and says whether it was. A failure is only
noted, since the display software may enable the latch itself. -/
def setUp (pen : Lightpen) : Program Note Bool := do
  match ← pen.enableLatch.run with
  | .ok () =>
    Program.remark .latchEnabled
    return true
  | .error cause =>
    Program.remark (.latchRefused cause)
    return false

/-- Is the pen seen? -/
def detect (pen : Lightpen) : Attempt ω Bool := do
  return (← Attempt.readWord pen.potgor) &&& potPenSeen != 0

/-- Where is the pen? -/
def position (pen : Lightpen) : Attempt ω Beam := do
  let vhposr ← Attempt.readWord pen.vhposr
  let vposr ← Attempt.readWord pen.vposr
  return Beam.decode vhposr vposr

/-- Is the tip down? It shares a line with the counters of game port 0. -/
def tip (pen : Lightpen) : Attempt ω Bool := do
  return (← Attempt.readWord pen.joy0dat) &&& penTipBit == 0

/-- Reads where the pen is and its tip. -/
def sighting (pen : Lightpen) : Attempt ω PenSighting := do
  let beam ← pen.position
  let tipDown ← pen.tip
  return ⟨beam, tipDown⟩

/-- Reads whether the pen is seen, and if so all the rest. -/
def sense (pen : Lightpen) : Attempt ω (Option PenSighting) := do
  if ← pen.detect then return some (← pen.sighting) else return none

/-- Reads the pen and reports it. -/
def poll (pen : Lightpen) : Program Remark (Except BusError Unit × Lightpen) := do
  match ← pen.sense.run with
  | .error cause => return (.error cause, pen)
  | .ok seen =>
    Program.remarks (pen.state.remarks seen)
    return (.ok (), { pen with state := pen.state.next seen })

end Lightpen

end InputBridge
