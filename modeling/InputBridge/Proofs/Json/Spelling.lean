import InputBridge.Config.Token
import Mathlib.Data.List.Chain
import Mathlib.Tactic.Positivity

/-!
# How tokens are written

A JSON text is tokens with blanks around them. `Spells piece token` says that `piece` is a
way to write a token: punctuation and words as they are, integers in plain decimal, and
strings with each character as it is or as a `\u` escape. `SpellsAll text ts` puts any
blanks between the pieces.

`tokens_of_spellsAll` is the reader's half: every text that spells some tokens is read as
just these. Only a number does not show where it ends, so something else has to come after
it (`Separated`).
-/

namespace InputBridge.Json

/-! ## Pieces -/

/-- A hexadecimal digit in lower or upper case, and its value. -/
def IsHexDigit (c : Char) (value : Nat) : Prop :=
  value < 16 ∧ (c = value.digitChar ∨ c = value.digitChar.toUpper)

/-- Four hexadecimal digits, and the number they write. -/
def IsHexUnit (a b c d : Char) (unit : Nat) : Prop :=
  IsHexDigit a (unit / 4096) ∧ IsHexDigit b (unit / 256 % 16) ∧ IsHexDigit c (unit / 16 % 16) ∧
    IsHexDigit d (unit % 16)

/-- Is this character printed, and neither quote nor backslash? -/
def isPlain (c : Char) : Bool := ' ' ≤ c && c ≠ '"' && c ≠ '\\'

/-- What may stand for a character in a string: itself, if it is plain, or the four
hexadecimal digits of its code. -/
inductive SpellsChar : List Char → Char → Prop where
  | plain {c : Char} (h : isPlain c = true) : SpellsChar [c] c
  | escaped {a b c d : Char} {unit : Nat} (digits : IsHexUnit a b c d unit)
      (single : unit < 0xD800) : SpellsChar ['\\', 'u', a, b, c, d] (Char.ofNat unit)

/-- What may stand between the quotes of a string. -/
inductive SpellsString : List Char → List Char → Prop where
  | nil : SpellsString [] []
  | cons {piece rest value : List Char} {c : Char} (first : SpellsChar piece c)
      (others : SpellsString rest value) : SpellsString (piece ++ rest) (c :: value)

/-- The ways to write a token. -/
inductive Spells : List Char → Token → Prop where
  | openBrace : Spells ['\x7b'] .openBrace
  | closeBrace : Spells ['\x7d'] .closeBrace
  | openBracket : Spells ['['] .openBracket
  | closeBracket : Spells [']'] .closeBracket
  | colon : Spells [':'] .colon
  | comma : Spells [','] .comma
  | text {body value : List Char} (h : SpellsString body value) :
      Spells ('"' :: (body ++ ['"'])) (.text (String.ofList value))
  | natural {n : Nat} (h : n < 2 ^ 64) : Spells (Nat.toDigits 10 n) (.integer n)
  | negative {n : Nat} (pos : 0 < n) (h : n ≤ 2 ^ 63) :
      Spells ('-' :: Nat.toDigits 10 n) (.integer (-n))
  | truth (value : Bool) :
      Spells (if value then ['t', 'r', 'u', 'e'] else ['f', 'a', 'l', 's', 'e']) (.truth value)
  | null : Spells ['n', 'u', 'l', 'l'] .null

/-- Tokens with any blanks before, between and after them. -/
inductive SpellsAll : List Char → List Token → Prop where
  | nil {blanks : List Char} (h : ∀ c ∈ blanks, isBlank c = true) : SpellsAll blanks []
  | cons {blanks piece rest : List Char} {t : Token} {ts : List Token}
      (h : ∀ c ∈ blanks, isBlank c = true) (first : Spells piece t) (others : SpellsAll rest ts) :
      SpellsAll (blanks ++ piece ++ rest) (t :: ts)

/-- A string of plain characters is spelled by itself. -/
theorem spellsString_self : ∀ {value : List Char}, value.all isPlain = true →
    SpellsString value value
  | [], _ => .nil
  | c :: rest, h => by
    rw [List.all_cons, Bool.and_eq_true] at h
    exact .cons (.plain h.1) (spellsString_self h.2)

/-- Such a string between quotes is a way to write it. -/
theorem spells_text {value : String} (h : value.toList.all isPlain = true) :
    Spells ('"' :: (value.toList ++ ['"'])) (.text value) := by
  have hspelled := Spells.text (spellsString_self h)
  rwa [String.ofList_toList] at hspelled

/-- A token may stand right before the others. -/
theorem SpellsAll.next {piece rest : List Char} {t : Token} {ts : List Token}
    (first : Spells piece t) (others : SpellsAll rest ts) : SpellsAll (piece ++ rest) (t :: ts) :=
  @SpellsAll.cons [] _ _ _ _ (by simp) first others

theorem SpellsAll.done : SpellsAll [] [] := .nil (by simp)

/-! ## Strings -/

theorem hexDigit?_of_isHexDigit {c : Char} {value : Nat} (h : IsHexDigit c value) :
    hexDigit? c = some value := by
  have hall : ∀ n < 16,
      hexDigit? n.digitChar = some n ∧ hexDigit? n.digitChar.toUpper = some n := by
    decide
  obtain ⟨hlower, hupper⟩ := hall value h.1
  rcases h.2 with rfl | rfl
  · exact hlower
  · exact hupper

theorem hexUnit?_of_isHexUnit {a b c d : Char} {unit : Nat} (h : IsHexUnit a b c d unit) :
    hexUnit? a b c d = some unit := by
  obtain ⟨ha, hb, hc, hd⟩ := h
  unfold hexUnit?
  rw [hexDigit?_of_isHexDigit ha, hexDigit?_of_isHexDigit hb, hexDigit?_of_isHexDigit hc,
    hexDigit?_of_isHexDigit hd]
  show some _ = some _
  congr 1
  omega

/-- A unit below the surrogates is half of no pair. -/
theorem not_surrogate {unit : Nat} (h : unit < 0xD800) :
    isLowSurrogate unit = false ∧ isHighSurrogate unit = false := by
  unfold isLowSurrogate isHighSurrogate
  refine ⟨?_, ?_⟩ <;>
  · rw [Bool.and_eq_false_imp, decide_eq_true_eq]
    intro hlarge
    omega

/-- One character of a string is read back, however it is spelled. -/
theorem scanString_piece {piece : List Char} {c : Char} (h : SpellsChar piece c)
    (rest : List Char) : scanString (piece ++ rest) = (scanString rest).map (consChar c) := by
  cases h with
  | plain hplain =>
    unfold isPlain at hplain
    simp only [Bool.and_eq_true, decide_eq_true_eq] at hplain
    obtain ⟨⟨hprinted, hquote⟩, hbackslash⟩ := hplain
    have hnot : ¬(c = '\\' ∨ c < ' ') := by
      rintro (h | h)
      · exact hbackslash h
      · exact absurd hprinted (Char.not_le.mpr h)
    rw [List.singleton_append, scanString.eq_def]
    split <;> simp_all
  | escaped digits single =>
    obtain ⟨hlow, hhigh⟩ := not_surrogate single
    simp only [List.cons_append, List.nil_append]
    rw [scanString, hexUnit?_of_isHexUnit digits]
    simp [hlow, hhigh]

/-- A string is read back up to its closing quote. -/
theorem scanString_spelled {body value : List Char} (h : SpellsString body value)
    (rest : List Char) : scanString (body ++ '"' :: rest) = some (value, rest) := by
  induction h with
  | nil => rfl
  | cons first others ih =>
    rw [List.append_assoc, scanString_piece first, ih]
    rfl

/-! ## Numbers -/

/-- What may follow a number: nothing that would go on with it. -/
def EndsNumber (rest : List Char) : Prop :=
  ∀ c ∈ rest.head?, c.isDigit = false ∧ c ≠ '.' ∧ c ≠ 'e' ∧ c ≠ 'E'

theorem isDigit_toDigits (n : Nat) : ∀ c ∈ Nat.toDigits 10 n, c.isDigit = true :=
  fun _ h => Nat.isDigit_of_mem_toDigits (by decide) (by decide) h

theorem takeWhile_digits {digits rest : List Char} (h : ∀ c ∈ digits, c.isDigit = true)
    (hrest : EndsNumber rest) :
    (digits ++ rest).takeWhile Char.isDigit = digits ∧
      (digits ++ rest).dropWhile Char.isDigit = rest := by
  have hstop : rest.takeWhile Char.isDigit = [] ∧ rest.dropWhile Char.isDigit = rest := by
    cases rest with
    | nil => exact ⟨rfl, rfl⟩
    | cons c rest =>
      have hc : ¬c.isDigit = true := by rw [(hrest c rfl).1]; exact Bool.false_ne_true
      exact ⟨List.takeWhile_cons_of_neg hc, List.dropWhile_cons_of_neg hc⟩
  rw [List.takeWhile_append_of_pos h, List.dropWhile_append_of_pos h, hstop.1, hstop.2,
    List.append_nil]
  exact ⟨rfl, rfl⟩

/-- A number is written without zeros in front. -/
theorem hasLeadingZero_toDigits (n : Nat) : hasLeadingZero (Nat.toDigits 10 n) = false := by
  -- The first digit of a number of two or more digits is that of a quotient, so not 0.
  have hhead : ∀ n, 0 < n → (Nat.toDigits 10 n).head? ≠ some '0' := by
    intro n
    induction n using Nat.strongRecOn with
    | ind n ih =>
      intro hpos
      rw [Nat.toDigits_eq_if (by decide)]
      split
      next hsmall =>
        have hall : ∀ m < 10, 0 < m → [m.digitChar].head? ≠ some '0' := by decide
        exact hall n hsmall hpos
      next hlarge =>
        rw [List.head?_append_of_ne_nil _ Nat.toDigits_ne_nil]
        exact ih (n / 10) (by omega) (by omega)
  by_cases hsmall : n < 10
  · have hall : ∀ m < 10, hasLeadingZero [m.digitChar] = false := by decide
    rw [Nat.toDigits_of_lt_base hsmall]
    exact hall n hsmall
  · have hfirst := hhead n (by omega)
    generalize Nat.toDigits 10 n = digits at hfirst
    unfold hasLeadingZero
    split
    next => exact absurd rfl hfirst
    next => rfl

/-- More digits make a number no smaller. -/
theorem le_ofDigitChars (significand : Nat) (digits : List Char) :
    significand ≤ Nat.ofDigitChars 10 digits significand := by
  rw [Nat.ofDigitChars_eq_ofDigitChars_zero]
  exact Nat.le_trans (Nat.le_mul_of_pos_left _ (by positivity)) (Nat.le_add_right _ _)

/-- As long as the number stays below 2^64, all its digits are gathered. -/
theorem gather_all : ∀ {digits : List Char} {significand : Nat},
    Nat.ofDigitChars 10 digits significand < UInt64.size →
      gather significand digits = (Nat.ofDigitChars 10 digits significand, [])
  | [], _, _ => rfl
  | digit :: rest, significand, h => by
    rw [Nat.ofDigitChars_cons] at h ⊢
    have hgrows := le_ofDigitChars (10 * significand + (digit.toNat - '0'.toNat)) rest
    have hfits : significand * 10 + (digit.toNat - '0'.toNat) < UInt64.size := by omega
    rw [gather, if_pos hfits, Nat.mul_comm significand 10]
    exact gather_all h

/-- Digits without a zero in front, that give a number below 2^64, and nothing that goes on
with them. -/
theorem scanNumber_digits (negative : Bool) {digits rest : List Char}
    (hdigits : ∀ c ∈ digits, c.isDigit = true) (hsome : digits ≠ [])
    (hlead : hasLeadingZero digits = false) (hvalue : digitsValue digits < 2 ^ 64)
    (hrest : EndsNumber rest) :
    scanNumber negative (digits ++ rest) = (integerToken negative digits, rest) := by
  obtain ⟨htake, hdrop⟩ := takeWhile_digits hdigits hrest
  have hfraction : scanFraction rest = some ([], rest) := by
    cases rest with
    | nil => rfl
    | cons c rest =>
      unfold scanFraction
      split
      next hc => exact absurd (List.cons.inj hc).1 (hrest c rfl).2.1
      next => rfl
  have hexponent : scanExponent rest = some (none, rest) := by
    cases rest with
    | nil => rfl
    | cons c rest =>
      obtain ⟨_, _, he, hE⟩ := hrest c rfl
      exact if_neg (not_or.mpr ⟨he, hE⟩)
  have hsmall : tooLarge digits [] 0 = false := by
    unfold tooLarge
    rw [gather_all hvalue]
    rfl
  unfold scanNumber
  rw [htake, hdrop, if_neg, hfraction]
  · dsimp only
    rw [hexponent]
    dsimp only
    rw [if_neg (by rw [Option.getD_none, hsmall]; exact Bool.false_ne_true), if_pos ⟨rfl, rfl⟩]
  · rw [hlead]
    exact not_or.mpr ⟨hsome, Bool.false_ne_true⟩

theorem digitsValue_toDigits (n : Nat) : digitsValue (Nat.toDigits 10 n) = n :=
  Nat.ofDigitChars_ten_toDigits

/-- A number in plain decimal is read back. -/
theorem scanNumber_toDigits (negative : Bool) {n : Nat} (h : n < 2 ^ 64) {rest : List Char}
    (hrest : EndsNumber rest) :
    scanNumber negative (Nat.toDigits 10 n ++ rest) =
      (integerToken negative (Nat.toDigits 10 n), rest) :=
  scanNumber_digits negative (isDigit_toDigits n) Nat.toDigits_ne_nil (hasLeadingZero_toDigits n)
    ((digitsValue_toDigits n).symm ▸ h) hrest

/-! ## Tokens -/

/-- Is this token an integer? -/
def Token.isInteger : Token → Bool
  | .integer _ => true
  | _ => false

/-- No integer stands right after another, so each shows where it ends. -/
def Separated (ts : List Token) : Prop :=
  ts.IsChain fun t next => t.isInteger = true → next.isInteger = false

theorem Separated.append {ts others : List Token} (h : Separated ts) (hothers : Separated others)
    (hnext : ∀ t ∈ others.head?, t.isInteger = false) : Separated (ts ++ others) :=
  List.isChain_append.mpr ⟨h, hothers, fun _ _ t ht _ => hnext t ht⟩

theorem Separated.cons {t : Token} {ts : List Token} (ht : t.isInteger = false)
    (h : Separated ts) : Separated (t :: ts) :=
  List.isChain_cons.mpr ⟨fun _ _ hinteger => absurd hinteger (by rw [ht]; decide), h⟩

theorem tokens_blanks : ∀ {blanks : List Char}, (∀ c ∈ blanks, isBlank c = true) →
    ∀ rest : List Char, tokens (blanks ++ rest) = tokens rest
  | [], _, _ => rfl
  | c :: blanks, h, rest => by
    rw [List.cons_append, tokens, if_pos (h c (List.mem_cons_self ..))]
    exact tokens_blanks (fun other hin => h other (List.mem_cons_of_mem _ hin)) rest

/-- A blank ends a number, and so does whatever any token but an integer begins with. -/
theorem endsNumber_of_spellsAll {rest : List Char} {ts : List Token} (h : SpellsAll rest ts)
    (hnext : ∀ t ∈ ts.head?, t.isInteger = false) : EndsNumber rest := by
  have hblank : ∀ c : Char, isBlank c = true →
      c.isDigit = false ∧ c ≠ '.' ∧ c ≠ 'e' ∧ c ≠ 'E' := by
    intro c hc
    unfold isBlank at hc
    simp only [Bool.or_eq_true, decide_eq_true_eq] at hc
    rcases hc with ((rfl | rfl) | rfl) | rfl <;> decide
  intro c hc
  cases h with
  | nil hblanks => exact hblank c (hblanks c (List.mem_of_head? hc))
  | @cons blanks piece _ t _ hblanks first _ =>
    cases blanks with
    | cons b blanks =>
      obtain rfl : b = c := Option.some.inj hc
      exact hblank b (hblanks b (List.mem_cons_self ..))
    | nil =>
      have ht := hnext t rfl
      cases first with
      | natural => exact absurd ht (by simp [Token.isInteger])
      | negative => exact absurd ht (by simp [Token.isInteger])
      | truth value =>
        cases value <;> (obtain rfl := Option.some.inj hc; decide)
      | _ => obtain rfl := Option.some.inj hc; decide

theorem scanToken_digit {c : Char} (h : c.isDigit = true) (rest : List Char) :
    scanToken c rest = scanNumber false (c :: rest) := by
  unfold scanToken
  split <;> exact if_pos h

/-- One token is read back, however it is spelled. -/
theorem scanToken_piece {piece : List Char} {t : Token} (h : Spells piece t) {rest : List Char}
    (hrest : t.isInteger = true → EndsNumber rest) :
    ∃ c tail, piece = c :: tail ∧ isBlank c = false ∧ scanToken c (tail ++ rest) = (t, rest) := by
  cases h with
  | text hbody =>
    refine ⟨_, _, rfl, by decide, ?_⟩
    rw [List.append_assoc, List.singleton_append]
    simp only [scanToken, scanString_spelled hbody]
  | @natural n hn =>
    obtain ⟨c, tail, hdigits⟩ := List.exists_cons_of_ne_nil (Nat.toDigits_ne_nil (n := n) (b := 10))
    have hc : c.isDigit = true := isDigit_toDigits n c (hdigits ▸ List.mem_cons_self ..)
    refine ⟨c, tail, hdigits, ?_, ?_⟩
    · cases hblank : isBlank c with
      | false => rfl
      | true =>
        unfold isBlank at hblank
        simp only [Bool.or_eq_true, decide_eq_true_eq] at hblank
        rcases hblank with ((rfl | rfl) | rfl) | rfl <;> exact absurd hc (by decide)
    · rw [scanToken_digit hc, ← List.cons_append, ← hdigits,
        scanNumber_toDigits false hn (hrest rfl)]
      unfold integerToken
      rw [digitsValue_toDigits]
      simp only [Bool.false_eq_true, if_false]
      rw [if_pos (show n < UInt64.size from hn)]
  | @negative n hpos hn =>
    refine ⟨_, _, rfl, by decide, ?_⟩
    show scanNumber true _ = _
    rw [scanNumber_toDigits true (by omega) (hrest rfl)]
    unfold integerToken
    rw [digitsValue_toDigits]
    simp only [if_true]
    rw [if_pos (show 0 < n ∧ n ≤ UInt64.size / 2 from ⟨hpos, hn⟩)]
  | truth value => cases value <;> exact ⟨_, _, rfl, by decide, rfl⟩
  | _ => exact ⟨_, _, rfl, by decide, rfl⟩

/-- Text that spells tokens is read as these tokens. -/
theorem tokens_of_spellsAll {text : List Char} {ts : List Token} (h : SpellsAll text ts)
    (hsep : Separated ts) : tokens text = ts := by
  induction h with
  | nil hblanks =>
    rename_i blanks
    have hall := tokens_blanks hblanks []
    rw [List.append_nil] at hall
    rw [hall, tokens]
  | @cons blanks piece rest t ts hblanks first others ih =>
    obtain ⟨hnext, htail⟩ : (∀ next ∈ ts.head?, t.isInteger = true → next.isInteger = false) ∧
        Separated ts := List.isChain_cons.mp hsep
    have hends : t.isInteger = true → EndsNumber rest := fun ht =>
      endsNumber_of_spellsAll others fun next hin => hnext next hin ht
    obtain ⟨c, tail, rfl, hblank, hscan⟩ := scanToken_piece first hends
    rw [List.append_assoc, tokens_blanks hblanks, List.cons_append, tokens,
      if_neg (by rw [hblank]; exact Bool.false_ne_true), hscan, ih htail]

end InputBridge.Json
