import InputBridge.Text.Numeral
import Mathlib.Data.List.Basic
import Mathlib.Data.List.TakeWhile

/-!
# Printable text

Everything the bridge writes is made of printable ASCII characters and line ends. So a character
is a byte, and a limit on bytes cuts a text between characters (`bytes_take`); and a line has no
line end in it, so a text of lines falls apart into these lines (`splitOn_lines`). The rest of the
module says so of the pieces that lines are made of: numerals in every base, cells of a fixed
width, and pieces put together.
-/

namespace InputBridge.Text

/-! ## Bytes -/

/-- The bytes of a text. -/
def bytes (text : String) : List UInt8 := text.toUTF8.data.toList

/-- Every character is one byte. -/
def IsAscii (text : String) : Prop := ∀ c ∈ text.toList, c.toNat < 128

instance : DecidablePred IsAscii := fun text =>
  List.decidableBAll (fun c : Char => c.toNat < 128) text.toList

theorem bytes_eq_flatMap (text : String) :
    bytes text = text.toList.flatMap String.utf8EncodeChar := by
  unfold bytes
  rw [String.toUTF8, ← String.utf8Encode_toList, List.utf8Encode]
  simp

theorem bytes_append (first second : String) :
    bytes (first ++ second) = bytes first ++ bytes second := by
  rw [bytes_eq_flatMap, bytes_eq_flatMap, bytes_eq_flatMap, String.toList_append,
    List.flatMap_append]

theorem bytes_of_ascii {text : String} (h : IsAscii text) :
    bytes text = text.toList.map fun c => UInt8.ofNat c.toNat := by
  have hchar : ∀ c ∈ text.toList, String.utf8EncodeChar c = [UInt8.ofNat c.toNat] := by
    intro c hc
    unfold String.utf8EncodeChar
    exact if_pos (Nat.le_of_lt_succ (h c hc))
  rw [bytes_eq_flatMap, List.flatMap_congr hchar, List.map_eq_flatMap]

theorem length_bytes {text : String} (h : IsAscii text) : (bytes text).length = text.length := by
  rw [bytes_of_ascii h, List.length_map, String.length_toList]

/-- The first characters of a text are its first bytes. -/
theorem bytes_take {text : String} (h : IsAscii text) (n : Nat) :
    bytes (String.ofList (text.toList.take n)) = (bytes text).take n := by
  have htake : IsAscii (String.ofList (text.toList.take n)) := by
    intro c hc
    rw [String.toList_ofList] at hc
    exact h c (List.mem_of_mem_take hc)
  rw [bytes_of_ascii h, bytes_of_ascii htake, String.toList_ofList, List.map_take]

theorem isAscii_append {first second : String} :
    IsAscii (first ++ second) ↔ IsAscii first ∧ IsAscii second := by
  unfold IsAscii
  rw [String.toList_append, List.forall_mem_append]

theorem isAscii_join {texts : List String} (h : ∀ text ∈ texts, IsAscii text) :
    IsAscii (String.join texts) := by
  intro c hc
  rw [String.toList_join, List.mem_flatMap] at hc
  obtain ⟨text, hin, hc⟩ := hc
  exact h text hin c hc

/-! ## Printable characters -/

/-- A character with a place of its own on a line: neither a control character nor beyond ASCII. -/
def IsPrintable (c : Char) : Prop := 32 ≤ c.toNat ∧ c.toNat < 127

instance : DecidablePred IsPrintable := fun c =>
  inferInstanceAs (Decidable (32 ≤ c.toNat ∧ c.toNat < 127))

/-- A text of printable characters. -/
def Printable (text : String) : Prop := ∀ c ∈ text.toList, IsPrintable c

instance : DecidablePred Printable := fun text => List.decidableBAll IsPrintable text.toList

theorem Printable.isAscii {text : String} (h : Printable text) : IsAscii text :=
  fun c hc => Nat.lt_succ_of_lt (h c hc).2

theorem Printable.no_lineEnd {text : String} (h : Printable text) : '\n' ∉ text.toList :=
  fun hin => absurd (h _ hin) (by decide)

theorem printable_append {first second : String} :
    Printable (first ++ second) ↔ Printable first ∧ Printable second := by
  unfold Printable
  rw [String.toList_append, List.forall_mem_append]

theorem Printable.append {first second : String} (hfirst : Printable first)
    (hsecond : Printable second) : Printable (first ++ second) :=
  printable_append.mpr ⟨hfirst, hsecond⟩

theorem printable_ofList {cs : List Char} :
    Printable (String.ofList cs) ↔ ∀ c ∈ cs, IsPrintable c := by
  unfold Printable
  rw [String.toList_ofList]

theorem printable_join {texts : List String} (h : ∀ text ∈ texts, Printable text) :
    Printable (String.join texts) := by
  intro c hc
  rw [String.toList_join, List.mem_flatMap] at hc
  obtain ⟨text, hin, hc⟩ := hc
  exact h text hin c hc

theorem printable_intercalate {separator : String} (hseparator : Printable separator)
    {texts : List String} (h : ∀ text ∈ texts, Printable text) :
    Printable (separator.intercalate texts) := by
  induction texts with
  | nil => exact fun c hc => by simp at hc
  | cons text rest ih =>
    obtain ⟨htext, hrest⟩ := List.forall_mem_cons.mp h
    cases rest with
    | nil => rwa [String.intercalate_singleton]
    | cons next rest =>
      rw [String.intercalate_cons_cons]
      exact (htext.append hseparator).append (ih hrest)

/-- A text of lines falls apart into these lines at the line ends. -/
theorem splitOn_lines : ∀ {lines : List String}, (∀ line ∈ lines, '\n' ∉ line.toList) →
    (String.join (lines.map (· ++ "\n"))).toList.splitOn '\n' = lines.map String.toList ++ [[]]
  | [], _ => rfl
  | line :: rest, h => by
    obtain ⟨hline, hrest⟩ := List.forall_mem_cons.mp h
    have htext : (String.join ((line :: rest).map (· ++ "\n"))).toList =
        line.toList ++ '\n' :: (String.join (rest.map (· ++ "\n"))).toList := by
      simp [String.toList_join]
    rw [htext, List.splitOn_append_cons_self_of_not_mem hline, splitOn_lines hrest]
    rfl

/-! ## Cells -/

theorem printable_rightAligned (width : Nat) {text : String} (h : Printable text) :
    Printable (rightAligned width text) := by
  unfold rightAligned
  rw [printable_ofList]
  intro c hc
  rcases List.mem_append.mp hc with hblank | htext
  · rw [List.eq_of_mem_replicate hblank]
    decide
  · exact h c htext

theorem length_rightAligned {width : Nat} {text : String} (h : text.length ≤ width) :
    (rightAligned width text).toList.length = width := by
  rw [rightAligned, String.toList_ofList, List.length_leftpad, String.length_toList]
  omega

/-- Without the blanks before it, a cell holds its text. -/
theorem dropWhile_rightAligned (width : Nat) {text : String} (h : ' ' ∉ text.toList) :
    (rightAligned width text).toList.dropWhile (· = ' ') = text.toList := by
  rw [rightAligned, String.toList_ofList, List.leftpad, List.dropWhile_append_of_pos]
  · refine List.dropWhile_eq_self_iff.mpr fun hpos hblank => h ?_
    rw [← of_decide_eq_true hblank]
    exact List.getElem_mem hpos
  · intro c hc
    rw [List.eq_of_mem_replicate hc]
    rfl

/-! ## Numerals -/

/-- A digit of any base is printable, in upper case too. -/
theorem isPrintable_digitChar (n : Nat) :
    IsPrintable n.digitChar ∧ IsPrintable n.digitChar.toUpper := by
  have hsmall : ∀ n < 16, IsPrintable n.digitChar ∧ IsPrintable n.digitChar.toUpper := by decide
  by_cases h : n < 16
  · exact hsmall n h
  · -- Beyond the digits there is one mark for all numbers.
    have hmark : n.digitChar = '*' := by
      simp (disch := omega) only [Nat.digitChar, if_neg]
    rw [hmark]
    decide

theorem exists_digitChar_of_mem_toDigits {base : Nat} (hbase : 1 < base) (n : Nat) {c : Char}
    (hc : c ∈ Nat.toDigits base n) : ∃ digit : Nat, c = digit.digitChar := by
  induction n using Nat.strongRecOn with
  | ind n ih =>
    rw [Nat.toDigits_eq_if hbase] at hc
    split at hc
    next => exact ⟨n, List.mem_singleton.mp hc⟩
    next hle =>
      rcases List.mem_append.mp hc with hhigh | hlow
      · have hpos : 0 < n := by omega
        exact ih (n / base) (Nat.div_lt_self hpos hbase) hhigh
      · exact ⟨n % base, List.mem_singleton.mp hlow⟩

theorem isDigit_of_mem_repr {n : Nat} {c : Char} (hc : c ∈ n.repr.toList) : c.isDigit = true := by
  rw [Nat.repr_eq_ofList_toDigits, String.toList_ofList] at hc
  exact Nat.isDigit_of_mem_toDigits (by decide) (by decide) hc

theorem printable_repr (n : Nat) : Printable n.repr := by
  rw [Nat.repr_eq_ofList_toDigits, printable_ofList]
  intro c hc
  obtain ⟨digit, rfl⟩ := exists_digitChar_of_mem_toDigits (by decide) n hc
  exact (isPrintable_digitChar digit).1

theorem printable_decimal : ∀ value : Int, Printable (decimal value)
  | .ofNat n => printable_repr n
  | .negSucc n => Printable.append (by decide) (printable_repr (n + 1))

theorem printable_zeroFilled {base : Nat} (hbase : 1 < base) (width n : Nat) :
    Printable (String.ofList (zeroFilled base width n)) := by
  rw [printable_ofList]
  intro c hc
  unfold zeroFilled List.leftpad at hc
  rcases List.mem_append.mp hc with hzero | hdigit
  · rw [List.eq_of_mem_replicate hzero]
    decide
  · obtain ⟨plain, hplain, rfl⟩ := List.mem_map.mp hdigit
    obtain ⟨digit, rfl⟩ := exists_digitChar_of_mem_toDigits hbase n hplain
    exact (isPrintable_digitChar digit).2

theorem printable_hex (width n : Nat) : Printable (hex width n) :=
  printable_zeroFilled (by decide) width n

theorem printable_binary (width n : Nat) : Printable (binary width n) :=
  printable_zeroFilled (by decide) width n

end InputBridge.Text
