import InputBridge.Proofs.Json.Strings
import Mathlib.Data.List.TakeWhile

/-!
# Texts that are cut or continued

A text is read token by token, and each token shows by itself where it ends; only a number
goes on as long as there are digits (`Shows`, `ShowsAll`). So what is read of a text that goes
on is what was read of it before, and the tokens of the rest (`tokens_append`). And if a text
is cut somewhere, its tokens are cut there too: what is left of a token is a shorter number
or nothing that can be read (`Stump`, `tokens_cut`).

All this holds of texts whose tokens are clean. A fraction is not: cut before its point, it
is an integer.
-/

namespace InputBridge.Json

/-- Is this a token that a configuration can have? -/
def Token.isClean : Token → Bool
  | .fraction | .bad => false
  | _ => true

/-- What is left of a token that is cut. -/
inductive Stump : Token → Token → Prop where
  | text {value : String} : Stump .bad (.text value)
  | truth {value : Bool} : Stump .bad (.truth value)
  | null : Stump .bad .null
  /-- Only the sign of a number is left. -/
  | sign {n : Int} (h : n < 0) : Stump .bad (.integer n)
  | digits {m n : Int} (h : 0 ≤ m ∧ m ≤ n ∨ n ≤ m ∧ m ≤ 0) : Stump (.integer m) (.integer n)

/-- What is left of tokens that are cut: some of them from the left on, and perhaps the stump
of the next one. -/
inductive Cut : List Token → List Token → Prop where
  | done {ts : List Token} : Cut [] ts
  | stump {short t : Token} {ts : List Token} (h : Stump short t) : Cut [short] (t :: ts)
  | keep {t : Token} {cut ts : List Token} (h : Cut cut ts) : Cut (t :: cut) (t :: ts)

theorem Cut.refl : ∀ ts : List Token, Cut ts ts
  | [] => .done
  | _ :: ts => .keep (Cut.refl ts)

/-- A cut of two lists is a cut of the first one, or all of it and a cut of the second one. -/
theorem Cut.append {cut first second : List Token} (h : Cut cut (first ++ second)) :
    Cut cut first ∨ ∃ later, cut = first ++ later ∧ Cut later second := by
  induction first generalizing cut with
  | nil => exact .inr ⟨cut, rfl, h⟩
  | cons t first ih =>
    cases h with
    | done => exact .inl .done
    | stump h => exact .inl (.stump h)
    | keep h =>
      rcases ih h with hfirst | ⟨later, hcut, hlater⟩
      · exact .inl (.keep hfirst)
      · exact .inr ⟨later, congrArg (t :: ·) hcut, hlater⟩

/-! ## Numbers -/

/-- Digits that can stand for a number: there are some, and no zero is in front of another. -/
structure IsNumeral (digits : List Char) : Prop where
  decimal : ∀ c ∈ digits, c.isDigit = true
  nonempty : digits ≠ []
  lead : hasLeadingZero digits = false

theorem integerToken_natural_iff {digits : List Char} {n : Int} :
    integerToken false digits = .integer n ↔
      digitsValue digits < 2 ^ 64 ∧ n = digitsValue digits := by
  simp only [integerToken, Bool.false_eq_true, if_false]
  split
  next hrange => exact ⟨fun h => ⟨hrange, (Token.integer.inj h).symm⟩, fun h => h.2 ▸ rfl⟩
  next hrange => exact iff_of_false (by simp) fun h => hrange h.1

theorem integerToken_negative_iff {digits : List Char} {n : Int} :
    integerToken true digits = .integer n ↔
      (0 < digitsValue digits ∧ digitsValue digits ≤ 2 ^ 63) ∧ n = -digitsValue digits := by
  simp only [integerToken, if_true]
  split
  next hrange => exact ⟨fun h => ⟨hrange, (Token.integer.inj h).symm⟩, fun h => h.2 ▸ rfl⟩
  next hrange => exact iff_of_false (by simp) fun h => hrange h.1

theorem scanFraction_nil {cs rest : List Char} (h : scanFraction cs = some ([], rest)) :
    rest = cs ∧ cs.head? ≠ some '.' := by
  unfold scanFraction at h
  split at h
  next tail =>
    dsimp only at h
    split at h
    next => exact absurd h (by simp)
    next hsome => exact absurd (Prod.mk.inj (Option.some.inj h)).1 hsome
  next hpoint =>
    refine ⟨(Prod.mk.inj (Option.some.inj h)).2.symm, fun hhead => ?_⟩
    obtain ⟨tail, rfl⟩ := List.head?_eq_some_iff.mp hhead
    exact hpoint tail rfl

theorem scanExponent_none {cs rest : List Char} (h : scanExponent cs = some (none, rest)) :
    rest = cs ∧ cs.head? ≠ some 'e' ∧ cs.head? ≠ some 'E' := by
  have hdigits : ∀ sign after, scanExponentDigits sign after ≠ some (none, rest) := by
    intro sign after
    unfold scanExponentDigits
    dsimp only
    split <;> simp
  unfold scanExponent at h
  split at h
  next => exact ⟨(Prod.mk.inj (Option.some.inj h)).2.symm, by simp, by simp⟩
  next c tail =>
    split at h
    next =>
      split at h <;> exact absurd h (hdigits _ _)
    next hc =>
      obtain ⟨he, hE⟩ := not_or.mp hc
      exact ⟨(Prod.mk.inj (Option.some.inj h)).2.symm, by simpa using he, by simpa using hE⟩

/-- Digits that no fraction and no exponent follow end there. -/
theorem endsNumber_dropWhile {cs : List Char}
    (hpoint : (cs.dropWhile Char.isDigit).head? ≠ some '.')
    (he : (cs.dropWhile Char.isDigit).head? ≠ some 'e')
    (hE : (cs.dropWhile Char.isDigit).head? ≠ some 'E') :
    EndsNumber (cs.dropWhile Char.isDigit) := by
  intro c hc
  have hdigit := List.head?_dropWhile_not Char.isDigit cs
  rw [Option.mem_def.mp hc] at hdigit
  refine ⟨hdigit, ?_, ?_, ?_⟩
  · rintro rfl
    exact hpoint hc
  · rintro rfl
    exact he hc
  · rintro rfl
    exact hE hc

theorem integer_of_isClean {negative : Bool} {digits : List Char}
    (hclean : (integerToken negative digits).isClean = true) :
    ∃ n, integerToken negative digits = .integer n := by
  unfold integerToken at hclean ⊢
  grind [Token.isClean]

theorem ne_of_isClean {short t : Token} (hshort : short.isClean = false) (hclean : t.isClean = true)
    {rest after : List Char} : (short, rest) ≠ (t, after) := by
  rintro heq
  rw [← (Prod.mk.inj heq).1, hshort] at hclean
  exact absurd hclean (by decide)

/-- A clean number that was read is an integer, and its text are digits up to where they end. -/
theorem scanNumber_clean {negative : Bool} {cs after : List Char} {t : Token}
    (h : scanNumber negative cs = (t, after)) (hclean : t.isClean = true) :
    ∃ digits n, cs = digits ++ after ∧ IsNumeral digits ∧ t = .integer n ∧
      integerToken negative digits = .integer n ∧ EndsNumber after := by
  unfold scanNumber at h
  dsimp only at h
  split at h
  next => exact absurd h (ne_of_isClean rfl hclean)
  next hwhole =>
    obtain ⟨hsome, hlead⟩ := not_or.mp hwhole
    split at h
    next => exact absurd h (ne_of_isClean rfl hclean)
    next fraction rest hfraction =>
      split at h
      next => exact absurd h (ne_of_isClean rfl hclean)
      next exponent rest' hexponent =>
        split at h
        next => exact absurd h (ne_of_isClean rfl hclean)
        next =>
          split at h
          next hplain =>
            obtain ⟨rfl, rfl⟩ := hplain
            obtain ⟨rfl, rfl⟩ := Prod.mk.inj h
            obtain ⟨rfl, hpoint⟩ := scanFraction_nil hfraction
            obtain ⟨hrest, he, hE⟩ := scanExponent_none hexponent
            obtain ⟨n, htoken⟩ := integer_of_isClean hclean
            rw [hrest]
            exact ⟨_, n, List.takeWhile_append_dropWhile.symm,
              ⟨fun c hc => List.mem_takeWhile_imp hc, hsome, eq_false_of_ne_true hlead⟩, htoken,
              htoken, endsNumber_dropWhile hpoint he hE⟩
          next => exact absurd h (ne_of_isClean rfl hclean)

theorem EndsNumber.of_cut {rest cut : List Char} (h : EndsNumber rest) (hcut : cut <+: rest) :
    EndsNumber cut := by
  intro c hc
  cases cut with
  | nil => exact absurd hc (by simp)
  | cons d cut =>
    obtain ⟨more, rfl⟩ := hcut
    exact h c hc

theorem hasLeadingZero_eq_false_iff {digits : List Char} :
    hasLeadingZero digits = false ↔ ∀ rest, digits = '0' :: rest → rest = [] := by
  unfold hasLeadingZero
  split
  next second others => simp
  next hnot =>
    refine iff_of_true rfl fun rest hdigits => ?_
    cases rest with
    | nil => rfl
    | cons second others => exact absurd hdigits (hnot second others)

/-- A digit that is not 0 makes the whole number positive. -/
theorem digitsValue_pos {c : Char} (hdigit : c.isDigit = true) (hc : c ≠ '0')
    (rest : List Char) : 0 < digitsValue (c :: rest) := by
  have hfrom : '0'.toNat ≤ c.toNat := by
    simp only [Char.isDigit, Bool.and_eq_true, decide_eq_true_eq, ge_iff_le,
      UInt32.le_iff_toNat_le, Char.toNat_val] at hdigit
    exact hdigit.1
  have hne : c.toNat ≠ '0'.toNat := fun h => hc (Char.toNat_inj.mp h)
  have hgrows := le_ofDigitChars (10 * 0 + (c.toNat - '0'.toNat)) rest
  unfold digitsValue
  rw [Nat.ofDigitChars_cons]
  omega

/-- Digits that are cut still stand for a number, and for one that is no larger. -/
theorem IsNumeral.of_cut {digits cut : List Char} (h : IsNumeral digits) (hcut : cut <+: digits)
    (hsome : cut ≠ []) :
    IsNumeral cut ∧ digitsValue cut ≤ digitsValue digits ∧
      (0 < digitsValue digits → 0 < digitsValue cut) := by
  obtain ⟨more, rfl⟩ := hcut
  have hlead := hasLeadingZero_eq_false_iff.mp h.lead
  refine ⟨⟨fun d hd => h.decimal d (List.mem_append_left more hd), hsome, ?_⟩, ?_, fun hpos => ?_⟩
  · refine hasLeadingZero_eq_false_iff.mpr fun rest hcut => ?_
    rw [hcut, List.cons_append] at hlead
    exact List.append_eq_nil_iff.mp (hlead _ rfl) |>.1
  · unfold digitsValue
    rw [Nat.ofDigitChars_append]
    exact le_ofDigitChars _ more
  · obtain ⟨c, cut, rfl⟩ := List.exists_cons_of_ne_nil hsome
    refine digitsValue_pos (h.decimal c (List.mem_cons_self ..)) (fun hc => ?_) cut
    -- A zero in front stands alone, and then the whole number is 0.
    rw [hc, List.cons_append] at hlead hpos
    rw [hlead _ rfl] at hpos
    exact absurd hpos (by decide)

/-! ## Tokens -/

/-- A token that is written as `c` and `tail`. It is read from them whatever follows, and if
they are cut, its stump is read. -/
structure Shows (c : Char) (tail : List Char) (t : Token) : Prop where
  reads : ∀ rest, (t.isInteger = true → EndsNumber rest) → scanToken c (tail ++ rest) = (t, rest)
  cuts : ∀ cut, cut <+: tail → cut ≠ tail →
    ∃ short, scanToken c cut = (short, []) ∧ Stump short t
  closing : t = .closeBrace ∨ t = .closeBracket → (c = '\x7d' ∨ c = ']') ∧ tail = []

/-- A token of one character cannot be cut. -/
theorem shows_single {c : Char} {t : Token} (hreads : ∀ rest, scanToken c rest = (t, rest))
    (hclosing : t = .closeBrace ∨ t = .closeBracket → c = '\x7d' ∨ c = ']') : Shows c [] t where
  reads rest _ := hreads rest
  cuts _ hcut hne := absurd (List.prefix_nil.mp hcut) hne
  closing ht := ⟨hclosing ht, rfl⟩

theorem shows_text {body value : List Char} (h : WritesString body value) :
    Shows '"' (body ++ ['"']) (.text (String.ofList value)) where
  reads rest _ := by
    rw [List.append_assoc, List.singleton_append]
    simp only [scanToken, scanString_written h]
  cuts cut hcut hne := by
    have hbody : cut <+: body := (List.prefix_concat_iff.mp hcut).resolve_left hne
    refine ⟨.bad, ?_, .text⟩
    simp only [scanToken, scanString_cut h hbody]
  closing ht := absurd ht (by simp)

/-- A word cannot be cut: what is left of it is no word. -/
theorem shows_word {c : Char} {tail : List Char} {t : Token} (hstump : Stump .bad t)
    (hword : t.isInteger = false ∧ t ≠ .closeBrace ∧ t ≠ .closeBracket)
    (hreads : ∀ rest, scanToken c (tail ++ rest) = (t, rest))
    (hcuts : ∀ n < tail.length, scanToken c (tail.take n) = (.bad, [])) : Shows c tail t where
  reads rest _ := hreads rest
  cuts cut hcut hne := by
    have hlength : cut.length < tail.length := Nat.lt_of_le_of_ne hcut.length_le
      fun h => hne (hcut.eq_of_length h)
    refine ⟨.bad, ?_, hstump⟩
    rw [List.prefix_iff_eq_take.mp hcut]
    exact hcuts _ hlength
  closing ht := absurd ht (not_or.mpr hword.2)

theorem endsNumber_nil : EndsNumber [] := fun c hc => absurd hc (by simp)

theorem scanNumber_numeral (negative : Bool) {digits : List Char} (h : IsNumeral digits)
    (hvalue : digitsValue digits < 2 ^ 64) {rest : List Char} (hrest : EndsNumber rest) :
    scanNumber negative (digits ++ rest) = (integerToken negative digits, rest) :=
  scanNumber_digits negative h.decimal h.nonempty h.lead hvalue hrest

/-- What is left of a number without a sign is a number that is no larger. -/
theorem shows_natural {c : Char} {tail : List Char} {n : Int} (h : IsNumeral (c :: tail))
    (htoken : integerToken false (c :: tail) = .integer n) : Shows c tail (.integer n) where
  reads rest hrest := by
    obtain ⟨hvalue, -⟩ := integerToken_natural_iff.mp htoken
    rw [scanToken_digit (h.decimal c (List.mem_cons_self ..)), ← List.cons_append,
      scanNumber_numeral false h hvalue (hrest rfl), htoken]
  cuts cut hcut _ := by
    obtain ⟨hvalue, rfl⟩ := integerToken_natural_iff.mp htoken
    obtain ⟨hnumeral, hle, -⟩ := h.of_cut ((List.prefix_cons_inj c).mpr hcut)
      (List.cons_ne_nil c cut)
    have hscan := scanNumber_numeral false hnumeral (by omega) endsNumber_nil
    rw [List.append_nil, integerToken_natural_iff.mpr ⟨by omega, rfl⟩] at hscan
    refine ⟨_, (scanToken_digit (h.decimal c (List.mem_cons_self ..)) cut).trans hscan, ?_⟩
    exact .digits (.inl ⟨by omega, by omega⟩)
  closing ht := absurd ht (by simp)

/-- What is left of a number with a sign is the sign or a negative number, too. -/
theorem shows_negative {digits : List Char} {n : Int} (h : IsNumeral digits)
    (htoken : integerToken true digits = .integer n) : Shows '-' digits (.integer n) where
  reads rest hrest := by
    obtain ⟨hvalue, -⟩ := integerToken_negative_iff.mp htoken
    rw [← htoken]
    exact scanNumber_numeral true h (by omega) (hrest rfl)
  cuts cut hcut _ := by
    obtain ⟨hvalue, rfl⟩ := integerToken_negative_iff.mp htoken
    by_cases hsome : cut = []
    · rw [hsome]
      exact ⟨.bad, rfl, .sign (by omega)⟩
    · obtain ⟨hnumeral, hle, hpos⟩ := h.of_cut hcut hsome
      have hcutPos := hpos hvalue.1
      have hscan := scanNumber_numeral true hnumeral (by omega) endsNumber_nil
      rw [List.append_nil, integerToken_negative_iff.mpr ⟨⟨hcutPos, by omega⟩, rfl⟩] at hscan
      exact ⟨_, hscan, .digits (.inr ⟨by omega, by omega⟩)⟩
  closing ht := absurd ht (by simp)

/-- Whatever clean token was read, its text shows it. -/
theorem shows_of_scanToken {c : Char} {rest after : List Char} {t : Token}
    (h : scanToken c rest = (t, after)) (hclean : t.isClean = true) :
    ∃ tail, rest = tail ++ after ∧ Shows c tail t ∧ (t.isInteger = true → EndsNumber after) := by
  have hbad : (Token.bad, []) ≠ (t, after) := ne_of_isClean rfl hclean
  unfold scanToken at h
  split at h
  case h_7 =>
    split at h
    next value rest' hscan =>
      obtain ⟨rfl, rfl⟩ := Prod.mk.inj h
      obtain ⟨body, rfl, hbody⟩ := writesString_of_scanString hscan
      exact ⟨body ++ ['"'], by simp, shows_text hbody, fun ht => absurd ht Bool.false_ne_true⟩
    next => exact absurd h hbad
  case h_8 =>
    split at h
    next rest' =>
      obtain ⟨rfl, rfl⟩ := Prod.mk.inj h
      exact ⟨['r', 'u', 'e'], rfl, shows_word .truth (by decide) (fun _ => rfl) (by decide),
        fun ht => absurd ht (by decide)⟩
    next => exact absurd h hbad
  case h_9 =>
    split at h
    next rest' =>
      obtain ⟨rfl, rfl⟩ := Prod.mk.inj h
      exact ⟨['a', 'l', 's', 'e'], rfl, shows_word .truth (by decide) (fun _ => rfl) (by decide),
        fun ht => absurd ht (by decide)⟩
    next => exact absurd h hbad
  case h_10 =>
    split at h
    next rest' =>
      obtain ⟨rfl, rfl⟩ := Prod.mk.inj h
      exact ⟨['u', 'l', 'l'], rfl, shows_word .null (by decide) (fun _ => rfl) (by decide),
        fun ht => absurd ht (by decide)⟩
    next => exact absurd h hbad
  case h_11 =>
    obtain ⟨digits, n, rfl, hdigits, rfl, htoken, hends⟩ := scanNumber_clean h hclean
    exact ⟨digits, rfl, shows_negative hdigits htoken, fun _ => hends⟩
  case h_12 =>
    split at h
    next hdigit =>
      obtain ⟨digits, n, hcs, hdigits, rfl, htoken, hends⟩ := scanNumber_clean h hclean
      obtain ⟨d, tail, rfl⟩ := List.exists_cons_of_ne_nil hdigits.nonempty
      obtain ⟨rfl, rfl⟩ := List.cons.inj hcs
      exact ⟨tail, rfl, shows_natural hdigits htoken, fun _ => hends⟩
    next => exact absurd h hbad
  all_goals
    obtain ⟨rfl, rfl⟩ := Prod.mk.inj h
    exact ⟨[], rfl, shows_single (fun _ => rfl) (by decide), fun ht => absurd ht (by decide)⟩

/-! ## Texts -/

/-- A text as the reader of tokens goes through it: past the blanks, and past each token up to
where it ends. -/
inductive ShowsAll : List Char → List Token → Prop where
  | nil : ShowsAll [] []
  | blank {c : Char} {rest : List Char} {ts : List Token} (h : isBlank c = true)
      (others : ShowsAll rest ts) : ShowsAll (c :: rest) ts
  | token {c : Char} {tail rest : List Char} {t : Token} {ts : List Token}
      (h : isBlank c = false) (first : Shows c tail t)
      (ends : t.isInteger = true → EndsNumber rest) (others : ShowsAll rest ts) :
      ShowsAll (c :: (tail ++ rest)) (t :: ts)

theorem Spells.isClean {piece : List Char} {t : Token} (h : Spells piece t) :
    t.isClean = true := by
  cases h <;> rfl

theorem SpellsAll.isClean {text : List Char} {ts : List Token} (h : SpellsAll text ts) :
    ∀ t ∈ ts, t.isClean = true := by
  induction h with
  | nil => simp
  | cons _ first _ ih => exact List.forall_mem_cons.mpr ⟨first.isClean, ih⟩

theorem tokens_blank {c : Char} (h : isBlank c = true) (rest : List Char) :
    tokens (c :: rest) = tokens rest := by
  rw [tokens, if_pos h]

theorem tokens_token {c : Char} (h : isBlank c = false) {rest after : List Char} {t : Token}
    (hscan : scanToken c rest = (t, after)) : tokens (c :: rest) = t :: tokens after := by
  rw [tokens, if_neg (by rw [h]; exact Bool.false_ne_true), hscan]

theorem showsAll_tokens (text : List Char) (hclean : ∀ t ∈ tokens text, t.isClean = true) :
    ShowsAll text (tokens text) := by
  fun_induction tokens text with
  | case1 => exact .nil
  | case2 c rest hblank ih => exact .blank hblank (ih hclean)
  | case3 c rest hblank ih =>
    obtain ⟨hfirst, hothers⟩ := List.forall_mem_cons.mp hclean
    obtain ⟨tail, hrest, hshows, hends⟩ :=
      shows_of_scanToken (Prod.eta (scanToken c rest)).symm hfirst
    conv => left; rw [hrest]
    exact .token (eq_false_of_ne_true hblank) hshows hends (ih hothers)

/-- A text can be continued behind its last token: what follows is read by itself. -/
theorem tokens_append {text : List Char} {ts : List Token} (h : ShowsAll text ts)
    (hlast : ∀ t ∈ ts.getLast?, t.isInteger = false) (more : List Char) :
    tokens (text ++ more) = ts ++ tokens more := by
  induction h with
  | nil => rfl
  | blank hblank _ ih =>
    rw [List.cons_append, tokens_blank hblank, ih hlast]
  | @token c tail rest t ts hblank first ends others ih =>
    have hends : t.isInteger = true → EndsNumber (rest ++ more) := by
      intro hinteger d hd
      cases rest with
      | nil =>
        -- The integer would be the last token.
        cases others
        exact absurd hinteger (by rw [hlast t rfl]; exact Bool.false_ne_true)
      | cons next rest => exact ends hinteger d hd
    have hlast' : ∀ other ∈ ts.getLast?, other.isInteger = false := by
      intro other hother
      refine hlast other ?_
      rw [List.getLast?_cons, Option.mem_def.mp hother]
      rfl
    rw [List.cons_append, List.append_assoc, tokens_token hblank (first.reads _ hends), ih hlast']
    rfl

/-- If a text is cut, its tokens are cut. -/
theorem tokens_cut {text : List Char} {ts : List Token} (h : ShowsAll text ts) {cut : List Char}
    (hcut : cut <+: text) : Cut (tokens cut) ts := by
  induction h generalizing cut with
  | nil =>
    rw [List.prefix_nil.mp hcut, tokens]
    exact .done
  | @blank c rest ts hblank others ih =>
    rcases List.prefix_cons_iff.mp hcut with rfl | ⟨cut, rfl, hafter⟩
    · rw [tokens]
      exact .done
    · rw [tokens_blank hblank]
      exact ih hafter
  | @token c tail rest t ts hblank first ends others ih =>
    rcases List.prefix_cons_iff.mp hcut with rfl | ⟨cut, rfl, hafter⟩
    · rw [tokens]
      exact .done
    · by_cases hwhole : tail <+: cut
      · obtain ⟨cut, rfl⟩ := hwhole
        have hlater := (List.prefix_append_right_inj tail).mp hafter
        rw [tokens_token hblank (first.reads cut fun ht => (ends ht).of_cut hlater)]
        exact .keep (ih hlater)
      · have hwithin := (List.prefix_or_prefix_of_prefix hafter
          (List.prefix_append tail rest)).resolve_right hwhole
        obtain ⟨short, hscan, hstump⟩ := first.cuts cut hwithin fun heq =>
          hwhole (heq ▸ List.prefix_rfl)
        rw [tokens_token hblank hscan, tokens]
        exact .stump hstump

theorem ShowsAll.isBlank {text : List Char} {ts : List Token} (h : ShowsAll text ts)
    (hnone : ts = []) : ∀ c ∈ text, isBlank c = true := by
  induction h with
  | nil => simp
  | blank hblank _ ih => exact List.forall_mem_cons.mpr ⟨hblank, ih hnone⟩
  | token => exact absurd hnone (List.cons_ne_nil _ _)

/-- Only blanks have no tokens. -/
theorem tokens_eq_nil_iff {text : List Char} :
    tokens text = [] ↔ ∀ c ∈ text, isBlank c = true := by
  refine ⟨fun hnone => (showsAll_tokens text (by simp [hnone])).isBlank hnone, fun hblanks => ?_⟩
  rw [← List.append_nil text, tokens_blanks hblanks, tokens]

/-- A text ends with its last token and blanks behind it. -/
theorem ShowsAll.split_last {text : List Char} {ts : List Token} {last : Token}
    (h : ShowsAll text (ts ++ [last])) : ∃ body c tail blanks,
      text = body ++ c :: (tail ++ blanks) ∧ ShowsAll body ts ∧ Shows c tail last ∧
        ∀ b ∈ blanks, Json.isBlank b = true := by
  generalize hall : ts ++ [last] = all at h
  induction h generalizing ts with
  | nil => exact absurd hall (by simp)
  | @blank c rest all hblank others ih =>
    obtain ⟨body, d, tail, blanks, rfl, hbody, hlast, hblanks⟩ := ih hall
    exact ⟨c :: body, d, tail, blanks, rfl, .blank hblank hbody, hlast, hblanks⟩
  | @token c tail rest t all hblank first ends others ih =>
    cases ts with
    | nil =>
      obtain ⟨rfl, rfl⟩ := List.cons.inj hall
      exact ⟨[], c, tail, rest, rfl, .nil, first, others.isBlank rfl⟩
    | cons t' ts =>
      obtain ⟨rfl, hothers⟩ := List.cons.inj hall
      obtain ⟨body, d, tail', blanks, rfl, hbody, hlast, hblanks⟩ := ih hothers
      refine ⟨c :: (tail ++ body), d, tail', blanks, by simp, ?_, hlast, hblanks⟩
      exact .token hblank first (fun ht => (ends ht).of_cut (List.prefix_append ..)) hbody

end InputBridge.Json
