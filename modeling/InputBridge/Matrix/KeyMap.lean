import InputBridge.Matrix.Key

/-!
# Key maps

The keyboard is a matrix of 6 rows and 9 columns. A `KeyMap` names the key at
each of its 54 positions. Positions are pairs of arbitrary numbers: whatever lies
outside the matrix has no key.
-/

namespace InputBridge

/-- Number of row lines. -/
abbrev rowCount : Nat := 6

/-- Number of column lines. -/
abbrev columnCount : Nat := 9

/-- A row and a column. -/
structure Position where
  row : Nat
  column : Nat
  deriving DecidableEq, Repr

/-- The positions of the matrix, row by row and each row from left to right. -/
def Position.all : List Position :=
  (List.range rowCount).flatMap fun row => (List.range columnCount).map fun column => ⟨row, column⟩

/-- One key per position of the matrix. -/
structure KeyMap where
  rows : Vector (Vector Key columnCount) rowCount
  deriving DecidableEq

namespace KeyMap

/-- The key at a position, if that is inside the matrix. -/
def get? (map : KeyMap) (row column : Nat) : Option Key := map.rows[row]?.bind (·[column]?)

/-- Every position with its key, in the order of `Position.all`. -/
def entries (map : KeyMap) : List (Position × Key) :=
  map.rows.toList.zipIdx.flatMap fun (keys, row) =>
    keys.toList.zipIdx.map fun (key, column) => (⟨row, column⟩, key)

/-- The first position that carries a key. -/
def position? (map : KeyMap) (key : Key) : Option Position :=
  (map.entries.find? (·.2 = key)).map (·.1)

/-- The matrix as it is wired: function keys, the main block, and a last row with
the space bar, the modifiers and the remaining punctuation. -/
def standard : KeyMap where
  rows := #v[
    #v[.f1, .f2, .f3, .f4, .f5, .f6, .f7, .f8, .f9],
    #v[.n1, .n2, .n3, .n4, .n5, .n6, .n7, .n8, .n9],
    #v[.q, .w, .e, .r, .t, .y, .u, .i, .o],
    #v[.a, .s, .d, .f, .g, .h, .j, .k, .l],
    #v[.z, .x, .c, .v, .b, .n, .m, .tab, .enter],
    #v[.space, .leftShift, .rightShift, .leftCtrl, .leftAlt, .backslash, .comma, .dot, .slash]]

end KeyMap

end InputBridge
