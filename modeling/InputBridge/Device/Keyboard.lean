import InputBridge.Bus.Program
import InputBridge.Event.Group
import InputBridge.Matrix.Snapshot
import InputBridge.Registers

/-!
# The keyboard

The scanner selects one column at a time by driving its line low, and reads the
row lines. Each snapshot is compared with the one before it: every position that
flipped becomes one key edge, row by row. A scan that fails anywhere reports
nothing and keeps the old snapshot.
-/

namespace InputBridge

/-- A keyboard scanner with the snapshot it reported last. -/
structure Keyboard where
  columnSelect : Address
  rowSense : Address
  /-- Direction register of the strobe port. -/
  selectDirection : Address
  /-- Direction register of the row port. -/
  senseDirection : Address
  keymap : KeyMap
  held : Snapshot := .released

namespace Keyboard

variable {ω : Type}

/-- The scanner for a machine, with nothing held. -/
def new (map : RegisterMap) (keymap : KeyMap) : Keyboard where
  columnSelect := map.columnSelect
  rowSense := map.rowSense
  selectDirection := map.ciaaDdra
  senseDirection := map.ciaaDdrb
  keymap

/-- Makes the strobe port outputs and the row port inputs. -/
def setUp (keyboard : Keyboard) : Attempt ω Unit := do
  Attempt.writeByte keyboard.selectDirection 0xFF
  Attempt.writeByte keyboard.senseDirection 0x00

/-- Strobes the given columns, one after the other, and fills in what they read. -/
def senseColumns (keyboard : Keyboard) : List Nat → Snapshot → Attempt ω Snapshot
  | [], snapshot => return snapshot
  | column :: rest, snapshot => do
    Attempt.writeWord keyboard.columnSelect (selectWord column)
    let rows ← Attempt.readByte keyboard.rowSense
    keyboard.senseColumns rest (snapshot.setColumn column rows)

/-- Reads every column once and then deselects them all. The first access that
fails ends the scan; nothing of a partial scan is kept. -/
def scan (keyboard : Keyboard) : Attempt ω Snapshot := do
  let snapshot ← keyboard.senseColumns (List.range columnCount) .released
  Attempt.writeWord keyboard.columnSelect deselectAll
  return snapshot

/-- What is said of one change: an edge of its key. -/
def changeRemark (keyboard : Keyboard) (change : Change) : Remark :=
  match keyboard.keymap.get? change.position.row change.position.column with
  | some key => .event (.key key change.pressed)
  | none => .note (.unmapped change.position)

/-- What is said of a snapshot: one edge per change since the last one. -/
def changeRemarks (keyboard : Keyboard) (snapshot : Snapshot) : List Remark :=
  (snapshot.changesFrom keyboard.held).map keyboard.changeRemark

/-- Reports a snapshot and keeps it. Gives the number of edges. -/
def process (keyboard : Keyboard) (snapshot : Snapshot) : Program Remark (Nat × Keyboard) := do
  let remarks := keyboard.changeRemarks snapshot
  Program.remarks remarks
  return ((remarks.filterMap Remark.event?).length, { keyboard with held := snapshot })

/-- Scans and reports. After a failed scan the keyboard is as it was. -/
def poll (keyboard : Keyboard) : Program Remark (Except BusError Nat × Keyboard) := do
  match ← keyboard.scan.run with
  | .error cause => return (.error cause, keyboard)
  | .ok snapshot =>
    let (edges, keyboard) ← keyboard.process snapshot
    return (.ok edges, keyboard)

end Keyboard

end InputBridge
