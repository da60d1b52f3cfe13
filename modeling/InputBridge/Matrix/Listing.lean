import InputBridge.Text.Numeral
import InputBridge.Matrix.KeyMap

/-!
# The matrix as a text table

A heading with the column numbers and one line per row. Every cell is six
characters wide, so a label can be read back from its place in the line.
-/

namespace InputBridge.KeyMap

/-- Width of a cell. -/
def cellWidth : Nat := 6

/-- The line above the rows. -/
def listingHeading : String :=
  "     " ++ String.join ((List.range columnCount).map fun column =>
    Text.rightAligned cellWidth ("c" ++ column.repr))

/-- The line of one row; a position without a key shows a dash. -/
def listingRow (map : KeyMap) (row : Nat) : String :=
  "r" ++ row.repr ++ ":  " ++ String.join ((List.range columnCount).map fun column =>
    Text.rightAligned cellWidth (((map.get? row column).map Key.label).getD "-"))

/-- The table, each line ended by a newline. -/
def listing (map : KeyMap) : String :=
  String.join ((listingHeading :: (List.range rowCount).map map.listingRow).map (· ++ "\n"))

end InputBridge.KeyMap
