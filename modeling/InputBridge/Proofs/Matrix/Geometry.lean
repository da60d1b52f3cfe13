import InputBridge.Matrix.Drawing
import InputBridge.Proofs.Matrix.Positions
import Mathlib.Algebra.Order.Field.Rat
import Mathlib.Data.List.Chain
import Mathlib.Data.Nat.Cast.Field
import Mathlib.Data.Set.Prod
import Mathlib.Order.Interval.Set.Basic
import Mathlib.Tactic.Linarith
import Mathlib.Tactic.Ring

/-!
# Where the keys are

The place of a key depends on the widths of the keys before it in its row, whatever keys these
are. So what is said of a row is shown along `placeFrom`, from one key to the next: the gap
between them (`isChain_placeFrom`), and with it that all later keys are further right
(`pairwise_placeFrom`). Rows are `pitch` apart and a key is less than that high, so keys of
different rows are apart too, and no two rectangles have a point in common
(`pairwise_apart_placed`).

Lengths are whole numbers of half pixels. Points and regions are in pixels (`inPixels`).
-/

namespace InputBridge.Drawing

/-! ## Pixels -/

/-- A length in pixels. -/
def inPixels (length : Length) : ℚ := (length : ℚ) / 2

theorem inPixels_add (length more : Length) :
    inPixels (length + more) = inPixels length + inPixels more := by
  unfold inPixels
  push_cast
  ring

theorem inPixels_le {length other : Length} :
    inPixels length ≤ inPixels other ↔ length ≤ other := by
  unfold inPixels
  rw [div_le_div_iff_of_pos_right two_pos, Nat.cast_le]

namespace PlacedKey

variable (placed : PlacedKey)

/-- The right edge of the rectangle. -/
def right : Length := placed.x + placed.width

/-- The bottom edge of the rectangle. -/
def bottom : Length := placed.y + unit

/-- The points of the rectangle, its edges included. -/
def region : Set (ℚ × ℚ) :=
  Set.Icc (inPixels placed.x) (inPixels placed.right) ×ˢ
    Set.Icc (inPixels placed.y) (inPixels placed.bottom)

end PlacedKey

/-- Half of a key's width is a whole number of half pixels too. -/
theorem two_mul_keyWidth_div_two (key : Key) : 2 * (keyWidth key / 2) = keyWidth key := by
  cases key <;> decide

/-! ## One row -/

section PlaceFrom

variable {y : Length}

theorem entries_placeFrom : ∀ (x : Length) (entries : List (Position × Key)),
    (placeFrom y x entries).map (fun placed => (placed.position, placed.key)) = entries
  | _, [] => rfl
  | _, entry :: rest => congrArg (List.cons entry) (entries_placeFrom _ rest)

theorem of_mem_placeFrom : ∀ {x : Length} {entries : List (Position × Key)} {placed : PlacedKey},
    placed ∈ placeFrom y x entries →
      placed.y = y ∧ x ≤ placed.x ∧ placed.width = keyWidth placed.key
  | x, (position, key) :: rest, placed, h => by
    rcases List.mem_cons.mp h with rfl | hrest
    · exact ⟨rfl, Nat.le_refl x, rfl⟩
    · obtain ⟨hy, hx, hwidth⟩ := of_mem_placeFrom hrest
      exact ⟨hy, Nat.le_trans (Nat.le_trans (Nat.le_add_right ..) (Nat.le_add_right ..)) hx, hwidth⟩

/-- Next to each other, keys are just the gap apart. -/
theorem isChain_placeFrom : ∀ (x : Length) (entries : List (Position × Key)),
    (placeFrom y x entries).IsChain fun left right => right.x = left.right + gap
  | _, [] => List.IsChain.nil
  | _, [_] => List.IsChain.singleton _
  | x, (_, key) :: next :: rest => List.isChain_cons_cons.mpr
    ⟨rfl, isChain_placeFrom (x + keyWidth key + gap) (next :: rest)⟩

/-- All later keys are further right by the gap or more. -/
theorem pairwise_placeFrom : ∀ (x : Length) (entries : List (Position × Key)),
    (placeFrom y x entries).Pairwise fun left right => left.right + gap ≤ right.x
  | _, [] => List.Pairwise.nil
  | x, (_, key) :: rest => List.pairwise_cons.mpr
    ⟨fun _ hin => (of_mem_placeFrom hin).2.1, pairwise_placeFrom (x + keyWidth key + gap) rest⟩

end PlaceFrom

/-- Within the matrix every position of a row has its key. -/
theorem rowKeys_eq (map : KeyMap) {row : Nat} (hrow : row < rowCount) :
    (rowKeys map row).map Prod.fst = (List.range columnCount).map (Position.mk row) := by
  unfold rowKeys
  rw [List.map_filterMap, ← List.filterMap_eq_map]
  refine List.filterMap_congr fun column hcolumn => ?_
  have hin : ⟨row, column⟩ ∈ Position.all :=
    Position.mem_all_iff.mpr ⟨hrow, List.mem_range.mp hcolumn⟩
  obtain ⟨key, hkey⟩ := map.exists_get?_of_mem_all hin
  rw [hkey]
  rfl

theorem get?_of_mem_rowKeys {map : KeyMap} {row : Nat} {position : Position} {key : Key}
    (h : (position, key) ∈ rowKeys map row) :
    position.row = row ∧ map.get? position.row position.column = some key := by
  obtain ⟨column, -, hentry⟩ := List.mem_filterMap.mp h
  obtain ⟨found, hfound, hsame⟩ := Option.map_eq_some_iff.mp hentry
  obtain ⟨rfl, rfl⟩ := Prod.mk.inj hsame
  exact ⟨rfl, hfound⟩

/-! ## All rows -/

/-- The keys of a row with their places. -/
def placedRow (map : KeyMap) (quarters row : Nat) : List PlacedKey :=
  placeFrom (row * pitch) (quarters * pitch / 4) (rowKeys map row)

theorem placed_eq (map : KeyMap) : placed map =
    indentQuarters.zipIdx.flatMap fun (quarters, row) => placedRow map quarters row := rfl

theorem of_mem_placedRow {map : KeyMap} {quarters row : Nat} {placed : PlacedKey}
    (h : placed ∈ placedRow map quarters row) :
    placed.position.row = row ∧ placed.y = row * pitch ∧ placed.width = keyWidth placed.key ∧
      map.get? placed.position.row placed.position.column = some placed.key := by
  obtain ⟨hy, -, hwidth⟩ := of_mem_placeFrom h
  have hentry : (placed.position, placed.key) ∈ rowKeys map row := by
    rw [← entries_placeFrom (quarters * pitch / 4) (rowKeys map row)]
    exact List.mem_map_of_mem h
  obtain ⟨hrow, hkey⟩ := get?_of_mem_rowKeys hentry
  exact ⟨hrow, hy, hwidth, hkey⟩

theorem positions_placedRow (map : KeyMap) (quarters : Nat) {row : Nat} (hrow : row < rowCount) :
    (placedRow map quarters row).map PlacedKey.position =
      (List.range columnCount).map (Position.mk row) := by
  have hentries : (placedRow map quarters row).map (fun placed => (placed.position, placed.key)) =
      rowKeys map row := entries_placeFrom ..
  rw [← rowKeys_eq map hrow, ← hentries, List.map_map]
  rfl

theorem row_lt_of_mem_zipIdx : ∀ entry ∈ indentQuarters.zipIdx, entry.2 < rowCount := by decide

/-- The positions, once each and row by row. -/
theorem positions_placed (map : KeyMap) :
    (placed map).map PlacedKey.position = Position.all := by
  have hrow : ∀ entry ∈ indentQuarters.zipIdx, (placedRow map entry.1 entry.2).map
      PlacedKey.position = (List.range columnCount).map (Position.mk entry.2) :=
    fun entry hin => positions_placedRow map entry.1 (row_lt_of_mem_zipIdx entry hin)
  rw [placed_eq, List.map_flatMap]
  exact (List.flatMap_congr hrow).trans rfl

/-- The keys of one row, found again among all. -/
theorem filter_placed (map : KeyMap) {quarters row : Nat}
    (h : (quarters, row) ∈ indentQuarters.zipIdx) :
    (placed map).filter (·.position.row = row) = placedRow map quarters row := by
  have hrows : ∀ entry ∈ indentQuarters.zipIdx,
      (placedRow map entry.1 entry.2).filter (·.position.row = row) =
        if entry.2 = row then placedRow map entry.1 entry.2 else [] := by
    intro entry _
    split
    next hsame =>
      refine List.filter_eq_self.mpr fun placed hin => ?_
      rw [decide_eq_true_eq, (of_mem_placedRow hin).1, hsame]
    next hother =>
      refine List.filter_eq_nil_iff.mpr fun placed hin => ?_
      rwa [decide_eq_true_eq, (of_mem_placedRow hin).1]
  rw [placed_eq, List.filter_flatMap]
  refine (List.flatMap_congr hrows).trans ?_
  simp only [indentQuarters, List.zipIdx_cons, List.zipIdx_nil, List.mem_cons, Prod.mk.injEq,
    List.not_mem_nil, or_false] at h ⊢
  rcases h with ⟨rfl, rfl⟩ | ⟨rfl, rfl⟩ | ⟨rfl, rfl⟩ | ⟨rfl, rfl⟩ | ⟨rfl, rfl⟩ | ⟨rfl, rfl⟩ <;> simp

/-- A row as it is laid out: one key for each column, the first one at the indent of the row and
each of the others the gap behind the one before. -/
structure IsRow (quarters row : Nat) (keys : List PlacedKey) : Prop where
  columns : keys.map PlacedKey.position = (List.range columnCount).map (Position.mk row)
  level : ∀ placed ∈ keys, inPixels placed.y = row * inPixels pitch
  indent : ∀ placed ∈ keys.head?, inPixels placed.x = quarters / 4 * inPixels pitch
  gaps : keys.IsChain fun left right => inPixels right.x = inPixels left.right + inPixels gap

theorem isRow_placedRow (map : KeyMap) (quarters : Nat) {row : Nat} (hrow : row < rowCount) :
    IsRow quarters row (placedRow map quarters row) where
  columns := positions_placedRow map quarters hrow
  level placed hin := by
    rw [(of_mem_placedRow hin).2.1]
    unfold inPixels
    push_cast
    ring
  indent placed hhead := by
    have hx : placed.x = quarters * (pitch / 4) := by
      rw [← Nat.mul_div_assoc quarters (by decide)]
      unfold placedRow at hhead
      cases hkeys : rowKeys map row with
      | nil => rw [hkeys] at hhead; exact nomatch hhead
      | cons entry rest =>
        rw [hkeys] at hhead
        exact congrArg PlacedKey.x (Option.some.inj hhead).symm
    have hpitch : ((pitch / 4 : Nat) : ℚ) = (pitch : ℚ) / 4 := Nat.cast_div_charZero (by decide)
    rw [hx]
    unfold inPixels
    rw [Nat.cast_mul, hpitch]
    ring
  gaps := (isChain_placeFrom _ _).imp fun _ _ h => by rw [h, inPixels_add]

/-! ## Rectangles -/

section Apart

variable {placed other : PlacedKey}

theorem apart_of_right (h : placed.right < other.x) :
    ∀ point ∈ placed.region, point ∉ other.region := by
  intro point hin hother
  have hreach : inPixels other.x ≤ inPixels placed.right := hother.1.1.trans hin.1.2
  exact absurd (inPixels_le.mp hreach) (not_le.mpr h)

theorem apart_of_below (h : placed.bottom < other.y) :
    ∀ point ∈ placed.region, point ∉ other.region := by
  intro point hin hother
  have hreach : inPixels other.y ≤ inPixels placed.bottom := hother.2.1.trans hin.2.2
  exact absurd (inPixels_le.mp hreach) (not_le.mpr h)

end Apart

/-- No two keys have a point in common. -/
theorem pairwise_apart_placed (map : KeyMap) : (placed map).Pairwise fun left right =>
    ∀ point ∈ left.region, point ∉ right.region := by
  rw [placed_eq, List.pairwise_flatMap]
  constructor
  · intro entry _
    refine (pairwise_placeFrom _ _).imp fun {left right} h => apart_of_right ?_
    exact Nat.lt_of_lt_of_le (Nat.lt_add_of_pos_right (by decide)) h
  · -- A lower row starts below the lower edge of a higher one.
    have hrows : indentQuarters.zipIdx.Pairwise fun upper lower => upper.2 < lower.2 := by decide
    refine hrows.imp fun {upper lower} hrow left hleft right hright => apart_of_below ?_
    have hbottom : left.bottom < (upper.2 + 1) * pitch := by
      rw [PlacedKey.bottom, (of_mem_placedRow hleft).2.1, Nat.add_mul]
      exact Nat.add_lt_add_left (by decide) _
    rw [(of_mem_placedRow hright).2.1]
    exact Nat.lt_of_lt_of_le hbottom (Nat.mul_le_mul_right pitch hrow)

/-! ## The box around the keys, and the sheet -/

/-- The points of the box around some keys. -/
def box (keys : List PlacedKey) : Set (ℚ × ℚ) :=
  Set.Icc 0 (inPixels (gridWidth keys)) ×ˢ Set.Icc 0 (inPixels (gridHeight keys))

/-- The points of the sheet that the keys are drawn on. -/
def sheet (keys : List PlacedKey) : Set (ℚ × ℚ) :=
  Set.Icc 0 (inPixels (gridWidth keys + 2 * margin)) ×ˢ
    Set.Icc 0 (inPixels (gridHeight keys + 2 * margin + titleHeight))

/-- Where the corner of the grid is on the sheet. -/
def gridCorner : ℚ × ℚ := (inPixels margin, inPixels (margin + titleHeight))

theorem le_foldl_max (edge : PlacedKey → Length) : ∀ (keys : List PlacedKey) (start : Length),
    let reach := keys.foldl (fun reach placed => max reach (edge placed)) start
    start ≤ reach ∧ ∀ placed ∈ keys, edge placed ≤ reach
  | [], start => ⟨Nat.le_refl start, fun _ hin => nomatch hin⟩
  | placed :: rest, start => by
    obtain ⟨hstart, hrest⟩ := le_foldl_max edge rest (max start (edge placed))
    refine ⟨Nat.le_trans (Nat.le_max_left ..) hstart, List.forall_mem_cons.mpr ⟨?_, hrest⟩⟩
    exact Nat.le_trans (Nat.le_max_right ..) hstart

theorem inPixels_nonneg (length : Length) : 0 ≤ inPixels length :=
  div_nonneg (Nat.cast_nonneg length) zero_le_two

theorem region_subset_box {keys : List PlacedKey} {placed : PlacedKey} (h : placed ∈ keys) :
    placed.region ⊆ box keys := by
  have hright : placed.right ≤ gridWidth keys := (le_foldl_max PlacedKey.right keys 0).2 placed h
  have hbottom : placed.bottom ≤ gridHeight keys :=
    (le_foldl_max PlacedKey.bottom keys 0).2 placed h
  exact Set.prod_mono (Set.Icc_subset_Icc (inPixels_nonneg _) (inPixels_le.mpr hright))
    (Set.Icc_subset_Icc (inPixels_nonneg _) (inPixels_le.mpr hbottom))

/-- What lies in the box lies on the sheet when the grid is moved to its corner. -/
theorem add_gridCorner_mem_sheet {keys : List PlacedKey} {point : ℚ × ℚ} (h : point ∈ box keys) :
    point + gridCorner ∈ sheet keys := by
  obtain ⟨⟨hx, hwidth⟩, hy, hheight⟩ := h
  have hmargin := inPixels_nonneg margin
  have htitle := inPixels_nonneg titleHeight
  have htwice : inPixels (2 * margin) = inPixels margin + inPixels margin := by
    rw [two_mul, inPixels_add]
  refine ⟨⟨?_, ?_⟩, ?_, ?_⟩ <;>
    simp only [gridCorner, Prod.fst_add, Prod.snd_add, inPixels_add, htwice] <;> linarith

end InputBridge.Drawing
