import InputBridge.Proofs.Json.Spelling

/-!
# What is read as a string

`SpellsChar` has two ways to write a character, as it is and as the four digits of its
code. Between the quotes of a JSON string there are two more: a letter after a backslash,
and the digits of both halves of a surrogate pair (`WritesChar`).

`scanString_eq_some_iff` says that the reader takes just these texts up to the closing
quote, and `scanString_cut` that it refuses all of them while the quote is missing.
-/

namespace InputBridge.Json

/-! ## The grammar of strings -/

/-- The letters that may stand after a backslash, and what they stand for. -/
def escapes : List (Char × Char) :=
  [('"', '"'), ('\\', '\\'), ('/', '/'), ('b', '\x08'), ('f', '\x0c'), ('n', '\n'), ('r', '\r'),
    ('t', '\t')]

/-- What may stand for a character between the quotes of a string. -/
inductive WritesChar : List Char → Char → Prop where
  | spelled {piece : List Char} {c : Char} (h : SpellsChar piece c) : WritesChar piece c
  | letter {letter c : Char} (h : (letter, c) ∈ escapes) : WritesChar ['\\', letter] c
  /-- The code of a character above the surrogates. -/
  | above {a b c d : Char} {unit : Nat} (digits : IsHexUnit a b c d unit)
      (single : 0xE000 ≤ unit) : WritesChar ['\\', 'u', a, b, c, d] (Char.ofNat unit)
  | pair {a b c d e f g h : Char} {high low : Nat} (first : IsHexUnit a b c d high)
      (second : IsHexUnit e f g h low) (isHigh : 0xD800 ≤ high ∧ high < 0xDC00)
      (isLow : 0xDC00 ≤ low ∧ low < 0xE000) :
      WritesChar ['\\', 'u', a, b, c, d, '\\', 'u', e, f, g, h]
        (Char.ofNat (0x10000 + (high - 0xD800) * 0x400 + (low - 0xDC00)))

/-- What may stand between the quotes of a string, and the characters it stands for. -/
inductive WritesString : List Char → List Char → Prop where
  | nil : WritesString [] []
  | cons {piece rest value : List Char} {c : Char} (first : WritesChar piece c)
      (others : WritesString rest value) : WritesString (piece ++ rest) (c :: value)

/-! ## Units -/

theorem escaped?_eq_some_iff {letter c : Char} :
    escaped? letter = some c ↔ (letter, c) ∈ escapes := by
  unfold escaped? escapes
  split <;> simp_all [eq_comm]

/-- A character is a digit if it is as many places after the first one of its kind. -/
theorem eq_of_toNat_eq {c digit : Char} {place first : Nat} (hplace : c.toNat = place + first)
    (hdigit : Char.ofNat (place + first) = digit) : c = digit := by
  rw [← hdigit, ← hplace, Char.ofNat_toNat]

theorem isHexDigit_of_hexDigit? {c : Char} {value : Nat} (h : hexDigit? c = some value) :
    IsHexDigit c value := by
  have hdigits : ∀ n < 10, Char.ofNat (n + 48) = n.digitChar := by decide
  have hlower : ∀ n < 6, Char.ofNat (n + 97) = (n + 10).digitChar := by decide
  have hupper : ∀ n < 6, Char.ofNat (n + 65) = (n + 10).digitChar.toUpper := by decide
  unfold hexDigit? at h
  simp only [Char.isDigit, Char.le_def, UInt32.le_iff_toNat_le, Char.toNat_val, ge_iff_le,
    Bool.and_eq_true, decide_eq_true_eq] at h
  split at h
  next hc =>
    obtain rfl := Option.some.inj h
    have hrange : 48 ≤ c.toNat ∧ c.toNat ≤ 57 := hc
    have hplace : c.toNat = c.toNat - 48 + 48 := by omega
    exact ⟨by show c.toNat - 48 < 16; omega,
      .inl (eq_of_toNat_eq hplace (hdigits (c.toNat - 48) (by omega)))⟩
  next =>
    split at h
    next hc =>
      obtain rfl := Option.some.inj h
      have hrange : 97 ≤ c.toNat ∧ c.toNat ≤ 102 := hc
      have hplace : c.toNat = c.toNat - 97 + 97 := by omega
      exact ⟨by show c.toNat - 97 + 10 < 16; omega,
        .inl (eq_of_toNat_eq hplace (hlower (c.toNat - 97) (by omega)))⟩
    next =>
      split at h
      next hc =>
        obtain rfl := Option.some.inj h
        have hrange : 65 ≤ c.toNat ∧ c.toNat ≤ 70 := hc
        have hplace : c.toNat = c.toNat - 65 + 65 := by omega
        exact ⟨by show c.toNat - 65 + 10 < 16; omega,
          .inr (eq_of_toNat_eq hplace (hupper (c.toNat - 65) (by omega)))⟩
      next => exact absurd h (by simp)

theorem isHexUnit_of_hexUnit? {a b c d : Char} {unit : Nat}
    (h : hexUnit? a b c d = some unit) : IsHexUnit a b c d unit := by
  unfold hexUnit? at h
  simp only [Option.bind_eq_bind, Option.bind_eq_some_iff, Option.pure_def, Option.some.injEq] at h
  obtain ⟨w, hw, x, hx, y, hy, z, hz, rfl⟩ := h
  have hw := isHexDigit_of_hexDigit? hw
  have hx := isHexDigit_of_hexDigit? hx
  have hy := isHexDigit_of_hexDigit? hy
  have hz := isHexDigit_of_hexDigit? hz
  have hsmall := And.intro hx.1 (And.intro hy.1 hz.1)
  have hfirst : (((w * 16 + x) * 16 + y) * 16 + z) / 4096 = w := by omega
  have hsecond : (((w * 16 + x) * 16 + y) * 16 + z) / 256 % 16 = x := by omega
  have hthird : (((w * 16 + x) * 16 + y) * 16 + z) / 16 % 16 = y := by omega
  have hfourth : (((w * 16 + x) * 16 + y) * 16 + z) % 16 = z := by omega
  exact ⟨hfirst.symm ▸ hw, hsecond.symm ▸ hx, hthird.symm ▸ hy, hfourth.symm ▸ hz⟩

theorem isHighSurrogate_iff {unit : Nat} :
    isHighSurrogate unit = true ↔ 0xD800 ≤ unit ∧ unit < 0xDC00 := by
  unfold isHighSurrogate
  rw [Bool.and_eq_true, decide_eq_true_eq, decide_eq_true_eq]
  omega

theorem isLowSurrogate_iff {unit : Nat} :
    isLowSurrogate unit = true ↔ 0xDC00 ≤ unit ∧ unit < 0xE000 := by
  unfold isLowSurrogate
  rw [Bool.and_eq_true, decide_eq_true_eq, decide_eq_true_eq]
  omega

/-! ## Reading -/

/-- After the first half of a pair, the second one has to follow. -/
theorem scanString_high {a b c d : Char} {high : Nat} (digits : IsHexUnit a b c d high)
    (isHigh : 0xD800 ≤ high ∧ high < 0xDC00) (rest : List Char) :
    scanString ('\\' :: 'u' :: a :: b :: c :: d :: rest) =
      match rest with
      | '\\' :: 'u' :: e :: f :: g :: h :: rest =>
        match hexUnit? e f g h with
        | none => none
        | some low =>
          if isLowSurrogate low then (scanString rest).map (consChar (pairedChar high low))
          else none
      | _ => none := by
  have hnotLow : ¬isLowSurrogate high = true := fun h => by
    have := isLowSurrogate_iff.mp h
    omega
  rw [scanString, hexUnit?_of_isHexUnit digits]
  exact (if_neg hnotLow).trans (if_pos (isHighSurrogate_iff.mpr isHigh))

/-- One character of a string is read back, however it is written. -/
theorem scanString_char {piece : List Char} {c : Char} (h : WritesChar piece c)
    (rest : List Char) : scanString (piece ++ rest) = (scanString rest).map (consChar c) := by
  cases h with
  | spelled h => exact scanString_piece h rest
  | letter h =>
    simp only [escapes, List.mem_cons, Prod.mk.injEq, List.not_mem_nil, or_false] at h
    rcases h with ⟨rfl, rfl⟩ | ⟨rfl, rfl⟩ | ⟨rfl, rfl⟩ | ⟨rfl, rfl⟩ | ⟨rfl, rfl⟩ | ⟨rfl, rfl⟩ |
      ⟨rfl, rfl⟩ | ⟨rfl, rfl⟩ <;> rfl
  | @above a b c d unit digits single =>
    have hlow : ¬isLowSurrogate unit = true := fun h => by
      have := isLowSurrogate_iff.mp h
      omega
    have hhigh : ¬isHighSurrogate unit = true := fun h => by
      have := isHighSurrogate_iff.mp h
      omega
    simp only [List.cons_append, List.nil_append]
    rw [scanString, hexUnit?_of_isHexUnit digits]
    dsimp only
    rw [if_neg hlow, if_neg hhigh]
  | pair first second isHigh isLow =>
    simp only [List.cons_append, List.nil_append]
    rw [scanString_high first isHigh]
    simp only [hexUnit?_of_isHexUnit second, isLowSurrogate_iff.mpr isLow, if_true]
    rfl

/-- A string is read up to its closing quote. -/
theorem scanString_written {body value : List Char} (h : WritesString body value)
    (rest : List Char) : scanString (body ++ '"' :: rest) = some (value, rest) := by
  induction h with
  | nil => rfl
  | cons first _ ih =>
    rw [List.append_assoc, scanString_char first, ih]
    rfl

/-- The characters in front of what was read go into the string. -/
theorem writesString_cons {piece cs value rest : List Char} {c : Char}
    (first : WritesChar piece c) (h : (scanString cs).map (consChar c) = some (value, rest))
    (ih : ∀ {value rest : List Char}, scanString cs = some (value, rest) →
      ∃ body, cs = body ++ '"' :: rest ∧ WritesString body value) :
    ∃ body, piece ++ cs = body ++ '"' :: rest ∧ WritesString body value := by
  obtain ⟨⟨later, after⟩, hscan, hcons⟩ := Option.map_eq_some_iff.mp h
  obtain ⟨rfl, rfl⟩ := Prod.mk.inj hcons
  obtain ⟨body, rfl, hbody⟩ := ih hscan
  exact ⟨piece ++ body, (List.append_assoc ..).symm, .cons first hbody⟩

/-- What was read as a string is one. -/
theorem writesString_of_scanString {cs value rest : List Char}
    (h : scanString cs = some (value, rest)) :
    ∃ body, cs = body ++ '"' :: rest ∧ WritesString body value := by
  fun_induction scanString cs generalizing value rest with
  | case2 after =>
    obtain ⟨rfl, rfl⟩ := Prod.mk.inj (Option.some.inj h)
    exact ⟨[], rfl, .nil⟩
  | case6 a b c d high hfirst hnot hhigh e f g k after low hsecond hlow ih =>
    exact writesString_cons (.pair (isHexUnit_of_hexUnit? hfirst) (isHexUnit_of_hexUnit? hsecond)
      (isHighSurrogate_iff.mp hhigh) (isLowSurrogate_iff.mp hlow)) h ih
  | case9 a b c d after unit hunit hlow hhigh ih =>
    have hdigits := isHexUnit_of_hexUnit? hunit
    rw [isLowSurrogate_iff] at hlow
    rw [isHighSurrogate_iff] at hhigh
    rcases Nat.lt_or_ge unit 0xD800 with hbelow | hfrom
    · exact writesString_cons (.spelled (.escaped hdigits hbelow)) h ih
    · exact writesString_cons (.above hdigits (by omega)) h ih
  | case11 letter after _ c hletter ih =>
    exact writesString_cons (.letter (escaped?_eq_some_iff.mp hletter)) h ih
  | case13 c after hquote _ _ hprinted ih =>
    obtain ⟨hbackslash, hcontrol⟩ := not_or.mp hprinted
    have hplain : isPlain c = true := by
      unfold isPlain
      simp only [Bool.and_eq_true, decide_eq_true_eq]
      exact ⟨⟨Char.not_lt.mp hcontrol, hquote⟩, hbackslash⟩
    exact writesString_cons (.spelled (.plain hplain)) h ih
  | _ => exact absurd h (by simp)

/-- The reader takes just the strings, up to their closing quote. -/
theorem scanString_eq_some_iff {cs value rest : List Char} :
    scanString cs = some (value, rest) ↔
      ∃ body, cs = body ++ '"' :: rest ∧ WritesString body value := by
  refine ⟨writesString_of_scanString, ?_⟩
  rintro ⟨body, rfl, hbody⟩
  exact scanString_written hbody rest

/-- What may stand between the quotes is just what is read up to the last one. -/
theorem writesString_iff {body value : List Char} :
    WritesString body value ↔ scanString (body ++ ['"']) = some (value, []) := by
  rw [scanString_eq_some_iff]
  refine ⟨fun h => ⟨body, rfl, h⟩, fun h => ?_⟩
  obtain ⟨body', heq, hbody'⟩ := h
  rwa [List.append_cancel_right heq]

/-! ## Strings without an end -/

/-- Part of what stands for a character is no string. -/
theorem scanString_take {piece : List Char} {c : Char} (h : WritesChar piece c) {n : Nat}
    (hn : n < piece.length) : scanString (piece.take n) = none := by
  cases h with
  | spelled h =>
    cases h with
    | plain =>
      obtain rfl : n = 0 := Nat.lt_one_iff.mp hn
      rfl
    | escaped => match n, hn with | 0, _ | 1, _ | 2, _ | 3, _ | 4, _ | 5, _ => rfl
  | letter h => match n, hn with | 0, _ | 1, _ => rfl
  | above => match n, hn with | 0, _ | 1, _ | 2, _ | 3, _ | 4, _ | 5, _ => rfl
  | pair first _ isHigh =>
    match n, hn with
    | 0, _ | 1, _ | 2, _ | 3, _ | 4, _ | 5, _ => rfl
    | 6, _ | 7, _ | 8, _ | 9, _ | 10, _ | 11, _ => exact scanString_high first isHigh _

/-- A string is refused as long as its closing quote is missing. -/
theorem scanString_cut {body value : List Char} (h : WritesString body value) {cut : List Char}
    (hcut : cut <+: body) : scanString cut = none := by
  induction h generalizing cut with
  | nil =>
    rw [List.prefix_nil.mp hcut]
    rfl
  | @cons piece rest value c first others ih =>
    rw [List.prefix_iff_eq_take.mp hcut]
    rcases Nat.lt_or_ge cut.length piece.length with hwithin | hbeyond
    · rw [List.take_append_of_le_length hwithin.le]
      exact scanString_take first hwithin
    · obtain ⟨n, hn⟩ := Nat.exists_eq_add_of_le hbeyond
      rw [hn, List.take_length_add_append, scanString_char first, ih (List.take_prefix n rest)]
      rfl

end InputBridge.Json
