import InputBridge.Matrix.KeyMap

/-!
# Matrix snapshots

A snapshot is one complete read of the keyboard matrix: a byte per column in
which bit `r` is row `r`, 0 for a key that is down. Bits 6 and 7 belong to no row
and never matter. The views of a snapshot (`isPressed`, `rowBits`,
`pressedKeys`, `changesFrom`) all speak of the same 54 positions.
-/

namespace InputBridge

/-- The select word that drives only the line of `column` low. -/
def selectWord (column : Nat) : UInt16 := ~~~((1 : UInt16) <<< UInt16.ofNat column)

/-- The select word that leaves every column line high. -/
def deselectAll : UInt16 := 0xFFFF

/-- One complete read of the matrix, a byte of active-low row bits per column. -/
structure Snapshot where
  columns : Vector UInt8 columnCount
  deriving DecidableEq

/-- A position whose key went down or up. -/
structure Change where
  position : Position
  pressed : Bool
  deriving DecidableEq, Repr

namespace Snapshot

/-- Every key up. -/
def released : Snapshot := ⟨Vector.replicate columnCount 0xFF⟩

/-- The row bits of a column; beyond the matrix nothing is pressed. -/
def column (snapshot : Snapshot) (column : Nat) : UInt8 := snapshot.columns[column]?.getD 0xFF

/-- Replaces the row bits of a column of the matrix. -/
def setColumn (snapshot : Snapshot) (column : Nat) (rows : UInt8) : Snapshot :=
  ⟨snapshot.columns.setIfInBounds column rows⟩

/-- Is the key at this position down? -/
def isPressed (snapshot : Snapshot) (row column : Nat) : Bool :=
  decide (row < rowCount) && !(snapshot.column column).toNat.testBit row

/-- The same snapshot with one more key down; positions outside the matrix hold no key. -/
def pressing (snapshot : Snapshot) (row column : Nat) : Snapshot :=
  if row < rowCount then
    snapshot.setColumn column (snapshot.column column &&& ~~~((1 : UInt8) <<< UInt8.ofNat row))
  else snapshot

/-- One row as a word in which bit `c` is column `c`, 0 for a key that is down. -/
def rowBits (snapshot : Snapshot) (row : Nat) : UInt16 :=
  (List.range columnCount).foldl
    (fun bits column =>
      if snapshot.isPressed row column then bits
      else bits ||| (1 : UInt16) <<< UInt16.ofNat column) 0

/-- The positions of the keys that are down, row by row. -/
def pressedKeys (snapshot : Snapshot) : List Position :=
  Position.all.filter fun position => snapshot.isPressed position.row position.column

/-- What changed since `earlier`, row by row. -/
def changesFrom (snapshot earlier : Snapshot) : List Change :=
  Position.all.filterMap fun position =>
    let pressed := snapshot.isPressed position.row position.column
    if pressed = earlier.isPressed position.row position.column then none
    else some ⟨position, pressed⟩

end Snapshot

end InputBridge
