import InputBridge.Matrix.Listing
import InputBridge.Proofs.Matrix.Lookup
import InputBridge.Proofs.Text.Printable

/-!
# The table read back

All lines of the table are built alike: something as wide as the name of a row, and then cells of
equal width (`tableLine`). A label fits into a cell and has no blank in it, so what stands in the
columns of a cell is its label (`cellAt_listing`). Labels tell keys apart, and so the table
tells key maps apart.
-/

namespace InputBridge

/-! ## Labels -/

namespace Key

theorem printable_label (key : Key) : Text.Printable key.label := by
  have hall : ∀ key ∈ all, Text.Printable key.label := by decide
  exact hall key (KeyMap.mem_all_keys key)

/-- A label fits into a cell, and nothing in it can be taken for the blanks around it. -/
theorem label_fits (key : Key) :
    key.label.length ≤ KeyMap.cellWidth ∧ ' ' ∉ key.label.toList := by
  have hall : ∀ key ∈ all, key.label.length ≤ KeyMap.cellWidth ∧ ' ' ∉ key.label.toList := by
    decide
  exact hall key (KeyMap.mem_all_keys key)

theorem label_injective : Function.Injective label := by
  have hnodup : (all.map label).Nodup := by decide
  intro key other h
  exact List.inj_on_of_nodup_map hnodup (KeyMap.mem_all_keys key) (KeyMap.mem_all_keys other) h

end Key

namespace KeyMap

/-! ## Lines of cells -/

/-- A line of the table: its beginning and its cells. -/
def tableLine (beginning : String) (cells : List String) : String :=
  beginning ++ String.join (cells.map (Text.rightAligned cellWidth))

section TableLine

variable {beginning : String} {cells : List String}

theorem toList_tableLine : (tableLine beginning cells).toList =
    beginning.toList ++ cells.flatMap fun cell => (Text.rightAligned cellWidth cell).toList := by
  rw [tableLine, String.toList_append, String.toList_join, List.flatMap_map]

theorem length_tableLine (h : ∀ cell ∈ cells, cell.length ≤ cellWidth) :
    (tableLine beginning cells).length = beginning.length + cellWidth * cells.length := by
  have hwidths : (cells.map fun cell => (Text.rightAligned cellWidth cell).toList.length) =
      List.replicate cells.length cellWidth :=
    List.map_eq_replicate_iff.mpr fun cell hin => Text.length_rightAligned (h cell hin)
  rw [← String.length_toList, toList_tableLine, List.length_append, List.length_flatMap, hwidths,
    List.sum_replicate_nat, String.length_toList, Nat.mul_comm]

theorem printable_tableLine (hbeginning : Text.Printable beginning)
    (hcells : ∀ cell ∈ cells, Text.Printable cell) :
    Text.Printable (tableLine beginning cells) := by
  refine hbeginning.append (Text.printable_join fun text hin => ?_)
  obtain ⟨cell, hcell, rfl⟩ := List.mem_map.mp hin
  exact Text.printable_rightAligned cellWidth (hcells cell hcell)

/-- Where all pieces are equally long, a piece is found by counting. -/
theorem take_drop_flatMap {α β : Type} {piece : α → List β} {width : Nat} {a : α} :
    ∀ {l : List α} {i : Nat}, (∀ b ∈ l, (piece b).length = width) → l[i]? = some a →
      ((l.flatMap piece).drop (width * i)).take width = piece a
  | first :: rest, 0, h, hat => by
    obtain rfl : first = a := Option.some.inj hat
    rw [List.flatMap_cons, Nat.mul_zero, List.drop_zero,
      List.take_left' (h first (List.mem_cons_self ..))]
  | first :: rest, i + 1, h, hat => by
    obtain ⟨hfirst, hrest⟩ := List.forall_mem_cons.mp h
    rw [List.flatMap_cons, Nat.mul_succ, Nat.add_comm, ← List.drop_drop, List.drop_left' hfirst]
    exact take_drop_flatMap hrest hat

/-- The text in a column of cells of a line, without the blanks before it. -/
def cellOf (line : List Char) (column : Nat) : String :=
  String.ofList (((line.drop (5 + 6 * column)).take 6).dropWhile (· = ' '))

theorem cellOf_tableLine (hbeginning : beginning.length = 5)
    (hcells : ∀ cell ∈ cells, cell.length ≤ cellWidth) {column : Nat} {cell : String}
    (hat : cells[column]? = some cell) (hblank : ' ' ∉ cell.toList) :
    cellOf (tableLine beginning cells).toList column = cell := by
  have hwidths : ∀ cell ∈ cells, (Text.rightAligned cellWidth cell).toList.length = 6 :=
    fun cell hin => Text.length_rightAligned (hcells cell hin)
  rw [← String.length_toList] at hbeginning
  rw [cellOf, toList_tableLine, ← List.drop_drop, List.drop_left' hbeginning,
    take_drop_flatMap hwidths hat, Text.dropWhile_rightAligned cellWidth hblank,
    String.ofList_toList]

end TableLine

/-! ## The lines of the table -/

/-- What stands in the cells of a row. -/
def rowLabels (map : KeyMap) (row : Nat) : List String :=
  (List.range columnCount).map fun column => ((map.get? row column).map Key.label).getD "-"

/-- The lines of the table. -/
def lines (map : KeyMap) : List String :=
  listingHeading :: (List.range rowCount).map map.listingRow

theorem listing_eq (map : KeyMap) : map.listing = String.join (map.lines.map (· ++ "\n")) := rfl

theorem listingHeading_eq : listingHeading =
    tableLine "     " ((List.range columnCount).map fun column => "c" ++ column.repr) := by
  unfold listingHeading tableLine
  rw [List.map_map]
  rfl

theorem listingRow_eq (map : KeyMap) (row : Nat) :
    map.listingRow row = tableLine ("r" ++ row.repr ++ ":  ") (map.rowLabels row) := by
  unfold listingRow tableLine rowLabels
  rw [List.map_map]
  rfl

theorem length_rowName : ∀ row < rowCount, ("r" ++ row.repr ++ ":  ").length = 5 := by decide

theorem rowLabels_fit (map : KeyMap) (row : Nat) : ∀ label ∈ map.rowLabels row,
    label.length ≤ cellWidth ∧ Text.Printable label := by
  intro label hin
  obtain ⟨column, -, rfl⟩ := List.mem_map.mp hin
  cases map.get? row column with
  | none => decide
  | some key => exact ⟨key.label_fits.1, key.printable_label⟩

theorem lines_fit (map : KeyMap) : ∀ line ∈ map.lines, line.length = 59 ∧ Text.Printable line := by
  refine List.forall_mem_cons.mpr ⟨?_, fun line hin => ?_⟩
  · have hcells : ∀ cell ∈ (List.range columnCount).map fun column => "c" ++ column.repr,
        cell.length ≤ cellWidth ∧ Text.Printable cell := by decide
    rw [listingHeading_eq]
    exact ⟨length_tableLine fun cell hin => (hcells cell hin).1,
      printable_tableLine (by decide) fun cell hin => (hcells cell hin).2⟩
  · obtain ⟨row, hrow, rfl⟩ := List.mem_map.mp hin
    have hname := length_rowName row (List.mem_range.mp hrow)
    have hfit := map.rowLabels_fit row
    have hcount : (map.rowLabels row).length = columnCount := by simp [rowLabels]
    rw [listingRow_eq]
    constructor
    · rw [length_tableLine fun label hin => (hfit label hin).1, hname, hcount]
      rfl
    · refine printable_tableLine ?_ fun label hin => (hfit label hin).2
      exact (Text.Printable.append (by decide) (Text.printable_repr row)).append (by decide)

/-! ## Reading the table -/

/-- The text in a cell of a table, the line above the rows not counted. -/
def cellAt (table : String) (row column : Nat) : String :=
  cellOf ((table.toList.splitOn '\n').getD (row + 1) []) column

theorem cellAt_listing (map : KeyMap) {row column : Nat} {key : Key}
    (hkey : map.get? row column = some key) : cellAt map.listing row column = key.label := by
  obtain ⟨hrow, hcolumn⟩ := map.bounds_of_get? hkey
  have hline : (map.listing.toList.splitOn '\n').getD (row + 1) [] =
      (tableLine ("r" ++ row.repr ++ ":  ") (map.rowLabels row)).toList := by
    have hat : map.lines[row + 1]? = some (map.listingRow row) := by
      unfold lines
      rw [List.getElem?_cons_succ, List.getElem?_map, List.getElem?_range hrow, Option.map_some]
    have hends : ∀ line ∈ map.lines, '\n' ∉ line.toList :=
      fun line hin => (map.lines_fit line hin).2.no_lineEnd
    have hlt : row + 1 < (map.lines.map String.toList).length := by
      rw [List.length_map]
      exact (List.getElem?_eq_some_iff.mp hat).1
    rw [listing_eq, Text.splitOn_lines hends, List.getD_eq_getElem?_getD,
      List.getElem?_append_left hlt, List.getElem?_map, hat, ← listingRow_eq]
    rfl
  have hcell : (map.rowLabels row)[column]? = some key.label := by
    simp [rowLabels, hcolumn, hkey]
  have hwidths : ∀ label ∈ map.rowLabels row, label.length ≤ cellWidth :=
    fun label hin => (map.rowLabels_fit row label hin).1
  rw [cellAt, hline]
  exact cellOf_tableLine (length_rowName row hrow) hwidths hcell key.label_fits.2

/-- **The table can be read back.** The table of any key map has seven lines of 59 characters, each
with its line end. The six characters from 5 + 6c on in the line of a row, without blanks before
them, are the label of the key in column c. No two keys have one label, no label is longer
than six characters, and no two key maps have the same table. -/
theorem listing_readable (map : KeyMap) :
    (∃ lines : List String, map.listing = String.join (lines.map (· ++ "\n")) ∧
      lines.length = 7 ∧ ∀ line ∈ lines, line.length = 59 ∧ '\n' ∉ line.toList) ∧
    (∀ row < rowCount, ∀ column < columnCount, ∃ key,
      map.get? row column = some key ∧ cellAt map.listing row column = key.label) ∧
    Function.Injective Key.label ∧ (∀ key : Key, key.label.length ≤ 6) ∧
    ∀ other : KeyMap, other.listing = map.listing → other = map := by
  have hcells : ∀ (any : KeyMap), ∀ row < rowCount, ∀ column < columnCount, ∃ key,
      any.get? row column = some key ∧ cellAt any.listing row column = key.label := by
    intro any row hrow column hcolumn
    obtain ⟨key, hkey⟩ := any.exists_get?_of_mem_all (p := ⟨row, column⟩)
      (Position.mem_all_iff.mpr ⟨hrow, hcolumn⟩)
    exact ⟨key, hkey, any.cellAt_listing hkey⟩
  refine ⟨⟨map.lines, map.listing_eq, rfl, fun line hin => ?_⟩, hcells map, Key.label_injective,
    fun key => key.label_fits.1, fun other hsame => eq_of_get? fun row hrow column hcolumn => ?_⟩
  · obtain ⟨hlength, hprintable⟩ := map.lines_fit line hin
    exact ⟨hlength, hprintable.no_lineEnd⟩
  · obtain ⟨key, hkey, hlabel⟩ := hcells map row hrow column hcolumn
    obtain ⟨found, hfound, hread⟩ := hcells other row hrow column hcolumn
    rw [hsame, hlabel] at hread
    rw [hkey, hfound, Key.label_injective hread]

end KeyMap

end InputBridge
