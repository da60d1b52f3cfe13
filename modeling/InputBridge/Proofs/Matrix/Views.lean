import InputBridge.Matrix.Snapshot
import InputBridge.Proofs.Matrix.Positions
import Mathlib.Data.Nat.Bitwise

/-!
# The views of a snapshot

A snapshot is kept column by column, and what is said of it goes row by row. All of it comes
down to single bits: the bit of a row in a column is high (`IsHigh`) unless the key there is
down. Rows are words of these bits (`testBit_rowBits`), one more key clears one of them
(`isHigh_pressing`), and a snapshot is nothing but its bits (`ext_isHigh`). So what is pressed
and what changed can be read off bit by bit, and pressing the keys of a snapshot one after the
other gives it back (`foldl_pressing_pressedKeys`).

Two bits of each column are of no row. Only there can two snapshots differ without a change
(`changesFrom_eq_nil_iff`).
-/

namespace InputBridge

/-! ## Bits of a word -/

section Bits

variable {row column : Nat}

theorem UInt8.lt_of_testBit {bits : UInt8} {i : Nat} (h : bits.toNat.testBit i = true) : i < 8 := by
  by_contra hi
  have hpow : 2 ^ 8 ≤ 2 ^ i := Nat.pow_le_pow_right (by decide) (by omega)
  rw [Nat.testBit_lt_two_pow (Nat.lt_of_lt_of_le bits.toNat_lt hpow)] at h
  exact Bool.false_ne_true h

/-- Bytes with the same bits are the same. -/
theorem UInt8.eq_of_testBit {bits other : UInt8}
    (h : ∀ i < 8, bits.toNat.testBit i = true ↔ other.toNat.testBit i = true) : bits = other := by
  apply UInt8.toNat_inj.mp
  apply Nat.eq_of_testBit_eq
  intro i
  rw [Bool.eq_iff_iff]
  constructor
  · intro hbit
    exact (h i (lt_of_testBit hbit)).mp hbit
  · intro hbit
    exact (h i (lt_of_testBit hbit)).mpr hbit

theorem UInt8.testBit_not (bits : UInt8) {i : Nat} (hi : i < 8) :
    (~~~bits).toNat.testBit i = true ↔ ¬bits.toNat.testBit i = true := by
  show (~~~bits).toBitVec.toNat.testBit i = true ↔ ¬bits.toBitVec.toNat.testBit i = true
  rw [BitVec.testBit_toNat, BitVec.testBit_toNat, UInt8.toBitVec_not, BitVec.getLsbD_not]
  simp [hi]

theorem UInt8.toNat_one_shiftLeft (hrow : row < 8) :
    ((1 : UInt8) <<< UInt8.ofNat row).toNat = 2 ^ row := by
  have hpow : 2 ^ row < 2 ^ 8 := Nat.pow_lt_pow_right (by decide) hrow
  rw [UInt8.toNat_shiftLeft, UInt8.toNat_ofNat', Nat.mod_mod_of_dvd _ (by decide),
    Nat.mod_eq_of_lt hrow, Nat.shiftLeft_eq]
  show 1 * 2 ^ row % 2 ^ 8 = 2 ^ row
  rw [Nat.one_mul, Nat.mod_eq_of_lt hpow]

theorem UInt16.toNat_one_shiftLeft (hcolumn : column < 16) :
    ((1 : UInt16) <<< UInt16.ofNat column).toNat = 2 ^ column := by
  have hpow : 2 ^ column < 2 ^ 16 := Nat.pow_lt_pow_right (by decide) hcolumn
  rw [UInt16.toNat_shiftLeft, UInt16.toNat_ofNat', Nat.mod_mod_of_dvd _ (by decide),
    Nat.mod_eq_of_lt hcolumn, Nat.shiftLeft_eq]
  show 1 * 2 ^ column % 2 ^ 16 = 2 ^ column
  rw [Nat.one_mul, Nat.mod_eq_of_lt hpow]

/-- Clearing a bit clears no other. -/
theorem UInt8.testBit_clear (bits : UInt8) (hrow : row < 8) (i : Nat) :
    (bits &&& ~~~((1 : UInt8) <<< UInt8.ofNat row)).toNat.testBit i = true ↔
      bits.toNat.testBit i = true ∧ i ≠ row := by
  rw [UInt8.toNat_and, Nat.testBit_and, Bool.and_eq_true]
  refine and_congr_right fun hbit => ?_
  rw [testBit_not _ (lt_of_testBit hbit), toNat_one_shiftLeft hrow, Nat.testBit_two_pow,
    decide_eq_true_iff]
  exact ne_comm

/-- Setting a bit sets no other. -/
theorem UInt16.testBit_set (bits : UInt16) (hcolumn : column < 16) (i : Nat) :
    (bits ||| (1 : UInt16) <<< UInt16.ofNat column).toNat.testBit i = true ↔
      bits.toNat.testBit i = true ∨ i = column := by
  rw [UInt16.toNat_or, Nat.testBit_or, Bool.or_eq_true, toNat_one_shiftLeft hcolumn,
    Nat.testBit_two_pow, decide_eq_true_iff]
  exact or_congr_right eq_comm

/-- The bits of rows, cut out of a byte. -/
theorem UInt8.testBit_and_rows (bits : UInt8) (i : Nat) :
    (bits &&& 0x3F).toNat.testBit i = true ↔ bits.toNat.testBit i = true ∧ i < rowCount := by
  rw [UInt8.toNat_and, Nat.testBit_and, Bool.and_eq_true]
  show _ ∧ (2 ^ rowCount - 1).testBit i = true ↔ _
  rw [Nat.testBit_two_pow_sub_one, decide_eq_true_iff]

end Bits

namespace Snapshot

variable (snapshot earlier : Snapshot)

/-! ## A snapshot as its bits -/

/-- The bit of this row is high in the column. -/
def IsHigh (row column : Nat) : Prop := (snapshot.column column).toNat.testBit row = true

theorem isPressed_iff_low {row column : Nat} : snapshot.isPressed row column = true ↔
    row < rowCount ∧ ¬snapshot.IsHigh row column := by
  unfold isPressed IsHigh
  rw [Bool.and_eq_true, decide_eq_true_iff, Bool.not_eq_true', Bool.not_eq_true]

/-- Every row has its bit in a byte. -/
theorem lt_eight_of_row {row : Nat} (hrow : row < rowCount) : row < 8 :=
  Nat.lt_of_lt_of_le hrow (by decide)

theorem isHigh_of_column {row column : Nat} (hcolumn : snapshot.column column = 0xFF)
    (hrow : row < 8) : snapshot.IsHigh row column := by
  unfold IsHigh
  rw [hcolumn]
  show (2 ^ 8 - 1).testBit row = true
  rwa [Nat.testBit_two_pow_sub_one, decide_eq_true_iff]

/-- Beyond the last column every line is high. -/
theorem column_of_ge {column : Nat} (hcolumn : columnCount ≤ column) :
    snapshot.column column = 0xFF := by
  unfold Snapshot.column
  rw [Vector.getElem?_eq_none hcolumn, Option.getD_none]

theorem column_released (column : Nat) : released.column column = 0xFF := by
  unfold Snapshot.column released
  by_cases h : column < columnCount <;> simp [h]

/-- Only keys of the matrix can be down. -/
theorem isPressed_iff {row column : Nat} : snapshot.isPressed row column = true ↔
    ⟨row, column⟩ ∈ Position.all ∧ ¬snapshot.IsHigh row column := by
  rw [isPressed_iff_low, Position.mem_all_iff]
  constructor
  · rintro ⟨hrow, hlow⟩
    refine ⟨⟨hrow, ?_⟩, hlow⟩
    by_contra hcolumn
    have hbeyond := snapshot.column_of_ge (Nat.le_of_not_lt hcolumn)
    exact hlow (snapshot.isHigh_of_column hbeyond (lt_eight_of_row hrow))
  · rintro ⟨⟨hrow, -⟩, hlow⟩
    exact ⟨hrow, hlow⟩

theorem isPressed_of_outside {row column : Nat} (hout : ⟨row, column⟩ ∉ Position.all) :
    snapshot.isPressed row column = false :=
  Bool.eq_false_iff.mpr fun h => hout (snapshot.isPressed_iff.mp h).1

theorem isPressed_released (row column : Nat) : released.isPressed row column = false := by
  rw [Bool.eq_false_iff]
  intro hpressed
  obtain ⟨hrow, hlow⟩ := released.isPressed_iff_low.mp hpressed
  exact hlow (released.isHigh_of_column (column_released column) (lt_eight_of_row hrow))

variable {snapshot earlier}

theorem ext_column
    (h : ∀ column < columnCount, snapshot.column column = earlier.column column) :
    snapshot = earlier := by
  obtain ⟨columns⟩ := snapshot
  obtain ⟨others⟩ := earlier
  congr 1
  ext column hcolumn
  have hsame := h column hcolumn
  unfold Snapshot.column at hsame
  rw [Vector.getElem?_eq_getElem hcolumn, Vector.getElem?_eq_getElem hcolumn] at hsame
  rw [Option.getD_some, Option.getD_some] at hsame
  rw [hsame]

/-- Snapshots with the same bits are the same. -/
theorem ext_isHigh (h : ∀ column < columnCount, ∀ row < 8,
    snapshot.IsHigh row column ↔ earlier.IsHigh row column) : snapshot = earlier :=
  ext_column fun column hcolumn => UInt8.eq_of_testBit (h column hcolumn)

variable (snapshot earlier)

/-! ## Rows -/

/-- Each column sets its bit in the word of a row, unless the key there is down. -/
theorem testBit_foldl_row (row i : Nat) : ∀ (columns : List Nat) (bits : UInt16),
    (∀ column ∈ columns, column < 16) →
    ((columns.foldl (fun bits column =>
        if snapshot.isPressed row column then bits
        else bits ||| (1 : UInt16) <<< UInt16.ofNat column) bits).toNat.testBit i = true ↔
      bits.toNat.testBit i = true ∨ i ∈ columns ∧ ¬snapshot.isPressed row i = true)
  | [], bits, _ => by simp
  | column :: rest, bits, h => by
    obtain ⟨hcolumn, hrest⟩ := List.forall_mem_cons.mp h
    rw [List.foldl_cons, testBit_foldl_row row i rest _ hrest, List.mem_cons]
    by_cases hpressed : snapshot.isPressed row column = true
    · rw [if_pos hpressed]
      constructor
      · rintro (hbit | ⟨hin, hup⟩)
        · exact .inl hbit
        · exact .inr ⟨.inr hin, hup⟩
      · rintro (hbit | ⟨rfl | hin, hup⟩)
        · exact .inl hbit
        · exact absurd hpressed hup
        · exact .inr ⟨hin, hup⟩
    · rw [if_neg hpressed, UInt16.testBit_set bits hcolumn]
      constructor
      · rintro ((hbit | rfl) | ⟨hin, hup⟩)
        · exact .inl hbit
        · exact .inr ⟨.inl rfl, hpressed⟩
        · exact .inr ⟨.inr hin, hup⟩
      · rintro (hbit | ⟨rfl | hin, hup⟩)
        · exact .inl (.inl hbit)
        · exact .inl (.inr rfl)
        · exact .inr ⟨hin, hup⟩

theorem testBit_rowBits {row i : Nat} : (snapshot.rowBits row).toNat.testBit i = true ↔
    i < columnCount ∧ ¬snapshot.isPressed row i = true := by
  have hcolumns : ∀ column ∈ List.range columnCount, column < 16 := by
    intro column hin
    have hlt : column < 9 := List.mem_range.mp hin
    omega
  unfold rowBits
  rw [testBit_foldl_row snapshot row i _ _ hcolumns, List.mem_range]
  exact or_iff_right (by simp)

/-- A row that does not exist has no key down. -/
theorem rowBits_of_ge {row : Nat} (hrow : rowCount ≤ row) : snapshot.rowBits row = 0x1FF := by
  have hup : ∀ column, snapshot.isPressed row column = false := by
    intro column
    rw [Bool.eq_false_iff]
    intro hpressed
    exact Nat.not_lt.mpr hrow (snapshot.isPressed_iff_low.mp hpressed).1
  unfold rowBits
  simp only [hup]
  rfl

theorem isPressed_iff_rowBits {row column : Nat} : snapshot.isPressed row column = true ↔
    row < rowCount ∧ column < columnCount ∧
      (snapshot.rowBits row).toNat.testBit column = false := by
  rw [← Bool.not_eq_true, testBit_rowBits]
  constructor
  · intro hpressed
    obtain ⟨hin, -⟩ := snapshot.isPressed_iff.mp hpressed
    obtain ⟨hrow, hcolumn⟩ := Position.mem_all_iff.mp hin
    exact ⟨hrow, hcolumn, fun hup => hup.2 hpressed⟩
  · rintro ⟨-, hcolumn, hbit⟩
    by_contra hup
    exact hbit ⟨hcolumn, hup⟩

/-! ## Pressed keys and changes -/

theorem mem_pressedKeys {p : Position} :
    p ∈ snapshot.pressedKeys ↔ snapshot.isPressed p.row p.column = true := by
  unfold pressedKeys
  rw [List.mem_filter]
  exact ⟨And.right, fun h => ⟨(snapshot.isPressed_iff.mp h).1, h⟩⟩

theorem pressedKeys_pairwise : snapshot.pressedKeys.Pairwise Position.Before :=
  Position.all_pairwise.filter _

theorem mem_changesFrom {p : Position} {pressed : Bool} :
    ⟨p, pressed⟩ ∈ snapshot.changesFrom earlier ↔
      snapshot.isPressed p.row p.column = pressed ∧ earlier.isPressed p.row p.column ≠ pressed := by
  unfold changesFrom
  rw [List.mem_filterMap]
  constructor
  · rintro ⟨q, -, hchange⟩
    dsimp only at hchange
    split at hchange
    next => exact nomatch hchange
    next hne =>
      obtain ⟨rfl, rfl⟩ := Change.mk.inj (Option.some.inj hchange)
      exact ⟨rfl, Ne.symm hne⟩
  · rintro ⟨rfl, hne⟩
    have hin : p ∈ Position.all := by
      by_contra hout
      rw [snapshot.isPressed_of_outside hout, earlier.isPressed_of_outside hout] at hne
      exact hne rfl
    exact ⟨p, hin, if_neg (Ne.symm hne)⟩

theorem changesFrom_pairwise : (snapshot.changesFrom earlier).Pairwise fun change later =>
    change.position.Before later.position := by
  have hat : ∀ {place : Position} {change : Change},
      (if snapshot.isPressed place.row place.column = earlier.isPressed place.row place.column
        then none else some ⟨place, snapshot.isPressed place.row place.column⟩) = some change →
      change.position = place := by
    intro place change h
    split at h
    next => exact nomatch h
    next => rw [← Option.some.inj h]
  unfold changesFrom
  rw [List.pairwise_filterMap]
  refine Position.all_pairwise.imp ?_
  intro p q hbefore change hchange later hlater
  rw [hat hchange, hat hlater]
  exact hbefore

theorem changesFrom_eq_nil : snapshot.changesFrom earlier = [] ↔
    ∀ row column, snapshot.isPressed row column = earlier.isPressed row column := by
  rw [List.eq_nil_iff_forall_not_mem]
  constructor
  · intro h row column
    by_contra hne
    exact h ⟨⟨row, column⟩, _⟩ ((snapshot.mem_changesFrom earlier).mpr ⟨rfl, Ne.symm hne⟩)
  · rintro h ⟨⟨row, column⟩, pressed⟩ hin
    obtain ⟨hnow, hbefore⟩ := (snapshot.mem_changesFrom earlier).mp hin
    exact hbefore ((h row column).symm.trans hnow)

/-- Of the bits of rows, those are low whose keys are down. -/
theorem testBit_rows {row column : Nat} :
    (snapshot.column column &&& 0x3F).toNat.testBit row = true ↔
      row < rowCount ∧ ¬snapshot.isPressed row column = true := by
  rw [UInt8.testBit_and_rows, isPressed_iff_low]
  constructor
  · rintro ⟨hhigh, hrow⟩
    exact ⟨hrow, fun hpressed => hpressed.2 hhigh⟩
  · rintro ⟨hrow, hup⟩
    refine ⟨?_, hrow⟩
    by_contra hlow
    exact hup ⟨hrow, hlow⟩

/-- Nothing changed if all bits of rows are what they were. -/
theorem changesFrom_eq_nil_iff : snapshot.changesFrom earlier = [] ↔
    ∀ column < columnCount, snapshot.column column &&& 0x3F = earlier.column column &&& 0x3F := by
  rw [changesFrom_eq_nil]
  constructor
  · intro h column _
    apply UInt8.eq_of_testBit
    intro row _
    rw [testBit_rows, testBit_rows, h row column]
  · intro h row column
    by_cases hin : ⟨row, column⟩ ∈ Position.all
    · obtain ⟨hrow, hcolumn⟩ := Position.mem_all_iff.mp hin
      have hup : row < rowCount ∧ ¬snapshot.isPressed row column = true ↔
          row < rowCount ∧ ¬earlier.isPressed row column = true := by
        rw [← testBit_rows, ← testBit_rows, h column hcolumn]
      exact Bool.eq_iff_iff.mpr (not_iff_not.mp (and_congr_right_iff.mp hup hrow))
    · rw [snapshot.isPressed_of_outside hin, earlier.isPressed_of_outside hin]

/-- Seen from the other side the same keys changed, the other way. -/
theorem changesFrom_swap : earlier.changesFrom snapshot =
    (snapshot.changesFrom earlier).map fun change => ⟨change.position, !change.pressed⟩ := by
  unfold changesFrom
  rw [List.map_filterMap]
  refine List.filterMap_congr fun p _ => ?_
  dsimp only
  cases snapshot.isPressed p.row p.column <;> cases earlier.isPressed p.row p.column <;> rfl

/-! ## Pressing keys -/

theorem column_setColumn (column other : Nat) (rows : UInt8) :
    (snapshot.setColumn column rows).column other =
      if other = column ∧ column < columnCount then rows else snapshot.column other := by
  unfold setColumn Snapshot.column
  rw [Vector.getElem?_setIfInBounds]
  by_cases h : column = other
  · subst h
    by_cases hcolumn : column < columnCount
    · rw [if_pos rfl, if_pos hcolumn, if_pos ⟨rfl, hcolumn⟩]
      rfl
    · rw [if_pos rfl, if_neg hcolumn, if_neg (fun hin => hcolumn hin.2),
        Vector.getElem?_eq_none (Nat.le_of_not_lt hcolumn)]
  · rw [if_neg h, if_neg (fun hin => h hin.1.symm)]

/-- One more key clears its own bit and no other. -/
theorem isHigh_pressing {row column i other : Nat} :
    (snapshot.pressing row column).IsHigh i other ↔ snapshot.IsHigh i other ∧
      ¬((row < rowCount ∧ column < columnCount) ∧ i = row ∧ other = column) := by
  unfold pressing
  by_cases hrow : row < rowCount
  · rw [if_pos hrow, IsHigh, column_setColumn]
    by_cases hin : other = column ∧ column < columnCount
    · obtain ⟨rfl, hcolumn⟩ := hin
      rw [if_pos ⟨rfl, hcolumn⟩, UInt8.testBit_clear _ (lt_eight_of_row hrow)]
      refine and_congr_right fun _ => not_congr ⟨fun hi => ?_, fun h => h.2.1⟩
      exact ⟨⟨hrow, hcolumn⟩, hi, rfl⟩
    · rw [if_neg hin]
      exact (and_iff_left fun h => hin ⟨h.2.2, h.1.2⟩).symm
  · rw [if_neg hrow]
    exact (and_iff_left fun h => hrow h.1.1).symm

theorem pressing_comm (row column row' column' : Nat) :
    (snapshot.pressing row column).pressing row' column' =
      (snapshot.pressing row' column').pressing row column := by
  apply ext_isHigh
  intro other _ i _
  rw [isHigh_pressing, isHigh_pressing, isHigh_pressing, isHigh_pressing]
  exact and_right_comm

theorem pressing_pressing (row column : Nat) :
    (snapshot.pressing row column).pressing row column = snapshot.pressing row column := by
  apply ext_isHigh
  intro other _ i _
  rw [isHigh_pressing, isHigh_pressing]
  exact and_iff_left_of_imp And.right

theorem pressing_of_outside {row column : Nat} (hout : ¬(row < rowCount ∧ column < columnCount)) :
    snapshot.pressing row column = snapshot := by
  apply ext_isHigh
  intro other _ i _
  rw [isHigh_pressing]
  exact and_iff_left fun h => hout h.1

/-- Keys pressed one after the other clear their own bits and no others. -/
theorem isHigh_foldl_pressing {i other : Nat} : ∀ (keys : List Position) (snapshot : Snapshot),
    (∀ p ∈ keys, p ∈ Position.all) →
    ((keys.foldl (fun held p => held.pressing p.row p.column) snapshot).IsHigh i other ↔
      snapshot.IsHigh i other ∧ ⟨i, other⟩ ∉ keys)
  | [], snapshot, _ => by simp
  | p :: rest, snapshot, h => by
    obtain ⟨hp, hrest⟩ := List.forall_mem_cons.mp h
    rw [List.foldl_cons, isHigh_foldl_pressing rest _ hrest, isHigh_pressing, and_assoc,
      List.mem_cons, not_or]
    refine and_congr_right fun _ => and_congr_left fun _ => not_congr ?_
    constructor
    · rintro ⟨-, rfl, rfl⟩
      rfl
    · rintro rfl
      exact ⟨Position.mem_all_iff.mp hp, rfl, rfl⟩

/-- The keys of a snapshot, pressed one after the other, are that snapshot, but for the bits that
are of no row. -/
theorem foldl_pressing_pressedKeys :
    snapshot.pressedKeys.foldl (fun held p => held.pressing p.row p.column) released =
      ⟨snapshot.columns.map (· ||| 0xC0)⟩ := by
  have hspare : ∀ row < 8, (0xC0 : UInt8).toNat.testBit row = true ↔ ¬row < rowCount := by decide
  have hin : ∀ p ∈ snapshot.pressedKeys, p ∈ Position.all := fun p hp => (List.mem_filter.mp hp).1
  apply ext_isHigh
  intro column hcolumn row hrow
  have hup : released.IsHigh row column := released.isHigh_of_column (column_released column) hrow
  have hfilled : (⟨snapshot.columns.map (· ||| 0xC0)⟩ : Snapshot).IsHigh row column ↔
      snapshot.IsHigh row column ∨ ¬row < rowCount := by
    have hbyte : (⟨snapshot.columns.map (· ||| 0xC0)⟩ : Snapshot).column column =
        snapshot.column column ||| 0xC0 := by
      unfold Snapshot.column
      rw [Vector.getElem?_map, Vector.getElem?_eq_getElem hcolumn]
      rfl
    rw [IsHigh, hbyte, UInt8.toNat_or, Nat.testBit_or, Bool.or_eq_true, hspare row hrow]
    rfl
  rw [isHigh_foldl_pressing _ _ hin, mem_pressedKeys, isPressed_iff_low, hfilled]
  constructor
  · rintro ⟨-, hkept⟩
    by_contra hcleared
    rw [not_or, not_not] at hcleared
    exact hkept ⟨hcleared.2, hcleared.1⟩
  · rintro (hhigh | hspareRow)
    · exact ⟨hup, fun hpressed => hpressed.2 hhigh⟩
    · exact ⟨hup, fun hpressed => hspareRow hpressed.1⟩

/-- **What is said of a snapshot agrees.** A key is among the pressed ones if it is pressed, which
is so if the position is in the matrix and its bit in the word of its row is clear; rows beyond the
matrix have no clear bit. A position is among the changes if it is pressed in one snapshot and not
in the other, so nothing changed if the bits of rows in all columns are the same, and seen from
the other side only the directions differ. Pressed keys and changes come in strict row-major order.

Pressing the keys of a snapshot one after the other gives its columns back with the two bits set
that are of no row. It does not matter in which order keys are pressed or how often, and pressing
one clears no bit but its own, and none for a position outside the matrix. -/
theorem views_agree (snapshot earlier : Snapshot) :
    ((∀ p, p ∈ snapshot.pressedKeys ↔ snapshot.isPressed p.row p.column = true) ∧
      (∀ row column, snapshot.isPressed row column = true ↔ row < rowCount ∧
        column < columnCount ∧ (snapshot.rowBits row).toNat.testBit column = false) ∧
      (∀ row, rowCount ≤ row → snapshot.rowBits row = 0x1FF) ∧
      snapshot.pressedKeys.Pairwise Position.Before) ∧
    ((∀ p pressed, ⟨p, pressed⟩ ∈ snapshot.changesFrom earlier ↔
        snapshot.isPressed p.row p.column = pressed ∧
          earlier.isPressed p.row p.column ≠ pressed) ∧
      ((snapshot.changesFrom earlier).Pairwise fun change later =>
        change.position.Before later.position) ∧
      (snapshot.changesFrom earlier = [] ↔ ∀ column < columnCount,
        snapshot.column column &&& 0x3F = earlier.column column &&& 0x3F) ∧
      earlier.changesFrom snapshot =
        (snapshot.changesFrom earlier).map fun change => ⟨change.position, !change.pressed⟩) ∧
    snapshot.pressedKeys.foldl (fun held p => held.pressing p.row p.column) released =
      ⟨snapshot.columns.map (· ||| 0xC0)⟩ ∧
    (∀ row column row' column', (snapshot.pressing row column).pressing row' column' =
      (snapshot.pressing row' column').pressing row column) ∧
    (∀ row column, (snapshot.pressing row column).pressing row column =
      snapshot.pressing row column) ∧
    (∀ row column, ¬(row < rowCount ∧ column < columnCount) →
      snapshot.pressing row column = snapshot) ∧
    ∀ row column i other, (snapshot.pressing row column).IsHigh i other ↔
      snapshot.IsHigh i other ∧
        ¬((row < rowCount ∧ column < columnCount) ∧ i = row ∧ other = column) :=
  ⟨⟨fun _ => snapshot.mem_pressedKeys, fun _ _ => snapshot.isPressed_iff_rowBits,
      fun _ => snapshot.rowBits_of_ge, snapshot.pressedKeys_pairwise⟩,
    ⟨fun _ _ => snapshot.mem_changesFrom earlier, snapshot.changesFrom_pairwise earlier,
      snapshot.changesFrom_eq_nil_iff earlier, snapshot.changesFrom_swap earlier⟩,
    snapshot.foldl_pressing_pressedKeys, snapshot.pressing_comm, snapshot.pressing_pressing,
    fun _ _ => snapshot.pressing_of_outside, fun _ _ _ _ => snapshot.isHigh_pressing⟩

/-- The two spare bits of a column are no change, and what is held in one snapshot only is. -/
example : (⟨#v[0x3F, 0xF7, 0xFF, 0xFF, 0xFF, 0xFF, 0xFF, 0xFF, 0xFF]⟩ : Snapshot).changesFrom
    released = [⟨⟨3, 1⟩, true⟩] := by decide

end Snapshot

end InputBridge
