/-!
# JSON tokens

A JSON text is a list of tokens with blanks between them. `tokens` gives them in
order; where the text stops being JSON the list ends in a `bad` token, so that
whoever reads the list meets the first problem from left to right.

Numbers are kept only as far as a configuration tells them apart: an integer that
fits 64 bits, or any other number. A number too large for a double is bad.
-/

namespace InputBridge.Json

/-- A token of a JSON text. -/
inductive Token where
  | openBrace
  | closeBrace
  | openBracket
  | closeBracket
  | colon
  | comma
  | text (value : String)
  /-- An integer from -2^63 to 2^64 - 1, but not a zero with a sign. -/
  | integer (value : Int)
  /-- Any other number. -/
  | fraction
  | truth (value : Bool)
  | null
  /-- Something that is no token; nothing follows it. -/
  | bad
  deriving DecidableEq, Repr

/-- The blanks of JSON: space, tab, line feed, carriage return. -/
def isBlank (c : Char) : Bool := c = ' ' || c = '\t' || c = '\n' || c = '\r'

/-! ## Strings -/

/-- The value of a hexadecimal digit. -/
def hexDigit? (c : Char) : Option Nat :=
  if c.isDigit then some (c.toNat - '0'.toNat)
  else if 'a' ≤ c ∧ c ≤ 'f' then some (c.toNat - 'a'.toNat + 10)
  else if 'A' ≤ c ∧ c ≤ 'F' then some (c.toNat - 'A'.toNat + 10)
  else none

/-- The number of four hexadecimal digits. -/
def hexUnit? (a b c d : Char) : Option Nat := do
  return (((← hexDigit? a) * 16 + (← hexDigit? b)) * 16 + (← hexDigit? c)) * 16 + (← hexDigit? d)

/-- Is this unit the first half of a pair? -/
def isHighSurrogate (unit : Nat) : Bool := 0xD800 ≤ unit && unit ≤ 0xDBFF

/-- Is this unit the second half of a pair? -/
def isLowSurrogate (unit : Nat) : Bool := 0xDC00 ≤ unit && unit ≤ 0xDFFF

/-- The character of a pair of units. -/
def pairedChar (high low : Nat) : Char :=
  Char.ofNat (0x10000 + (high - 0xD800) * 0x400 + (low - 0xDC00))

/-- The character that a letter after a backslash stands for. -/
def escaped? : Char → Option Char
  | '"' => some '"'
  | '\\' => some '\\'
  | '/' => some '/'
  | 'b' => some '\x08'
  | 'f' => some '\x0c'
  | 'n' => some '\n'
  | 'r' => some '\r'
  | 't' => some '\t'
  | _ => none

/-- Puts a character in front of a scanned string. -/
def consChar (c : Char) (scanned : List Char × List Char) : List Char × List Char :=
  (c :: scanned.1, scanned.2)

/-- Scans a string after its opening quote: its characters, and what follows the
closing quote. None if the string has no end, a control character, an unknown
escape, or half of a surrogate pair. -/
def scanString : List Char → Option (List Char × List Char)
  | [] => none
  | '"' :: rest => some ([], rest)
  | '\\' :: 'u' :: a :: b :: c :: d :: rest =>
    match hexUnit? a b c d with
    | none => none
    | some unit =>
      if isLowSurrogate unit then none
      else if isHighSurrogate unit then
        match rest with
        | '\\' :: 'u' :: e :: f :: g :: h :: rest =>
          match hexUnit? e f g h with
          | none => none
          | some low =>
            if isLowSurrogate low then (scanString rest).map (consChar (pairedChar unit low))
            else none
        | _ => none
      else (scanString rest).map (consChar (Char.ofNat unit))
  | '\\' :: c :: rest =>
    match escaped? c with
    | none => none
    | some c => (scanString rest).map (consChar c)
  | c :: rest => if c = '\\' ∨ c < ' ' then none else (scanString rest).map (consChar c)

/-! ## Numbers -/

/-- The number of a list of decimal digits. -/
def digitsValue (digits : List Char) : Nat := Nat.ofDigitChars 10 digits 0

/-- Scans a fraction: the digits after the point, none if there is no point. A
point needs a digit after it. -/
def scanFraction : List Char → Option (List Char × List Char)
  | '.' :: rest =>
    let digits := rest.takeWhile Char.isDigit
    if digits = [] then none else some (digits, rest.dropWhile Char.isDigit)
  | rest => some ([], rest)

/-- Scans the digits of an exponent after its sign. -/
def scanExponentDigits (sign : Int) (rest : List Char) : Option (Option Int × List Char) :=
  let digits := rest.takeWhile Char.isDigit
  if digits = [] then none
  else some (some (sign * digitsValue digits), rest.dropWhile Char.isDigit)

/-- Scans an exponent, if there is one. It needs a digit. -/
def scanExponent : List Char → Option (Option Int × List Char)
  | [] => some (none, [])
  | c :: rest =>
    if c = 'e' ∨ c = 'E' then
      match rest with
      | '+' :: rest => scanExponentDigits 1 rest
      | '-' :: rest => scanExponentDigits (-1) rest
      | rest => scanExponentDigits 1 rest
    else some (none, c :: rest)

/-- Takes digits into a significand as long as it stays below 2^64. Gives the
significand and the digits that were left. -/
def gather : Nat → List Char → Nat × List Char
  | significand, [] => (significand, [])
  | significand, digit :: rest =>
    let longer := significand * 10 + (digit.toNat - '0'.toNat)
    if longer < UInt64.size then gather longer rest else (significand, digit :: rest)

/-- `n` rounded to 53 significant bits, ties to even. -/
def roundToDouble (n : Nat) : Nat :=
  let excess := n.log2 + 1 - 53
  let kept := n >>> excess
  let unit := 1 <<< excess
  let cut := n % unit
  let half := unit / 2
  let up := excess ≠ 0 ∧ (half < cut ∨ (half = cut ∧ kept % 2 = 1))
  (if up then kept + 1 else kept) <<< excess

/-- Is `significand` times ten to the `exponent` beyond the doubles? Both factors
and the product are rounded. -/
def overflows (significand : Nat) (exponent : Int) : Bool :=
  if exponent ≤ 0 then false
  else if 308 < exponent then significand ≠ 0
  else 1 <<< 1024 ≤ roundToDouble
    (roundToDouble significand * roundToDouble (Nat.pow 10 exponent.toNat))

/-- Is the number with these parts too large for a double? Digits that no longer
fit the significand count as powers of ten in front of the point and not at all
behind it. -/
def tooLarge (whole fraction : List Char) (exponent : Int) : Bool :=
  let (significand, wholeLeft) := gather 0 whole
  let (significand, fractionLeft) := gather significand fraction
  overflows significand (exponent + wholeLeft.length - (fraction.length - fractionLeft.length))

/-- The token of a numeral without fraction and exponent. -/
def integerToken (negative : Bool) (digits : List Char) : Token :=
  let magnitude := digitsValue digits
  if negative then
    if 0 < magnitude ∧ magnitude ≤ UInt64.size / 2 then .integer (-magnitude) else .fraction
  else if magnitude < UInt64.size then .integer magnitude
  else .fraction

/-- Does a numeral begin with a zero that another digit follows? -/
def hasLeadingZero : List Char → Bool
  | '0' :: _ :: _ => true
  | _ => false

/-- Scans a number after its sign. -/
def scanNumber (negative : Bool) (cs : List Char) : Token × List Char :=
  let whole := cs.takeWhile Char.isDigit
  if whole = [] ∨ hasLeadingZero whole then (.bad, [])
  else
    match scanFraction (cs.dropWhile Char.isDigit) with
    | none => (.bad, [])
    | some (fraction, rest) =>
      match scanExponent rest with
      | none => (.bad, [])
      | some (exponent, rest) =>
        if tooLarge whole fraction (exponent.getD 0) then (.bad, [])
        else if fraction = [] ∧ exponent = none then (integerToken negative whole, rest)
        else (.fraction, rest)

/-! ## Tokens -/

/-- Scans the token that begins with `c`, and gives what follows it. -/
def scanToken (c : Char) (rest : List Char) : Token × List Char :=
  match c with
  | '\x7b' => (.openBrace, rest)
  | '\x7d' => (.closeBrace, rest)
  | '[' => (.openBracket, rest)
  | ']' => (.closeBracket, rest)
  | ':' => (.colon, rest)
  | ',' => (.comma, rest)
  | '"' =>
    match scanString rest with
    | some (value, rest) => (.text (String.ofList value), rest)
    | none => (.bad, [])
  | 't' =>
    match rest with
    | 'r' :: 'u' :: 'e' :: rest => (.truth true, rest)
    | _ => (.bad, [])
  | 'f' =>
    match rest with
    | 'a' :: 'l' :: 's' :: 'e' :: rest => (.truth false, rest)
    | _ => (.bad, [])
  | 'n' =>
    match rest with
    | 'u' :: 'l' :: 'l' :: rest => (.null, rest)
    | _ => (.bad, [])
  | '-' => scanNumber true rest
  | c => if c.isDigit then scanNumber false (c :: rest) else (.bad, [])

/-! Scanning a token never hands back more than it was given. -/

theorem scanString_length {cs value rest : List Char} (h : scanString cs = some (value, rest)) :
    rest.length < cs.length := by
  fun_induction scanString cs generalizing value rest <;>
    simp_all [Option.map_eq_some_iff, consChar] <;> grind

theorem scanFraction_length {cs digits rest : List Char}
    (h : scanFraction cs = some (digits, rest)) : rest.length ≤ cs.length := by
  unfold scanFraction at h
  split at h
  · next tail =>
    have := (List.dropWhile_suffix (p := Char.isDigit) (l := tail)).length_le
    grind
  · grind

theorem scanExponentDigits_length {sign : Int} {cs rest : List Char} {exponent : Option Int}
    (h : scanExponentDigits sign cs = some (exponent, rest)) : rest.length ≤ cs.length := by
  have := (List.dropWhile_suffix (p := Char.isDigit) (l := cs)).length_le
  grind [scanExponentDigits]

theorem scanExponent_length {cs rest : List Char} {exponent : Option Int}
    (h : scanExponent cs = some (exponent, rest)) : rest.length ≤ cs.length := by
  unfold scanExponent at h
  split at h
  · grind
  · split at h
    · split at h
      · have := scanExponentDigits_length h; grind
      · have := scanExponentDigits_length h; grind
      · have := scanExponentDigits_length h; grind
    · grind

theorem scanNumber_length (negative : Bool) (cs : List Char) :
    (scanNumber negative cs).2.length ≤ (cs.dropWhile Char.isDigit).length := by
  cases hfraction : scanFraction (cs.dropWhile Char.isDigit) with
  | none => simp [scanNumber, hfraction]
  | some scanned =>
    have hrest := scanFraction_length hfraction
    cases hexponent : scanExponent scanned.2 with
    | none => simp [scanNumber, hfraction, hexponent]
    | some scanned' =>
      have := scanExponent_length hexponent
      simp only [scanNumber, hfraction, hexponent]
      grind

theorem dropWhile_length_le (p : Char → Bool) (cs : List Char) :
    (cs.dropWhile p).length ≤ cs.length := (List.dropWhile_suffix p).length_le

theorem scanToken_length (c : Char) (rest : List Char) :
    (scanToken c rest).2.length ≤ rest.length := by
  unfold scanToken
  split
  case h_7 =>
    split
    · next h => have := scanString_length h; grind
    · simp
  case h_8 | h_9 | h_10 =>
    split
    · simp only [List.length_cons]
      omega
    · exact Nat.zero_le _
  case h_11 => exact Nat.le_trans (scanNumber_length true rest) (dropWhile_length_le _ rest)
  case h_12 =>
    split
    · next h =>
      have := scanNumber_length false (c :: rest)
      rw [List.dropWhile_cons_of_pos h] at this
      exact Nat.le_trans this (dropWhile_length_le _ rest)
    · simp
  all_goals exact Nat.le_refl _

/-- The tokens of a text, in order. -/
def tokens : List Char → List Token
  | [] => []
  | c :: rest =>
    if isBlank c then tokens rest
    else (scanToken c rest).1 :: tokens (scanToken c rest).2
termination_by cs => cs.length
decreasing_by
  · simp
  · have := scanToken_length c rest
    simp only [List.length_cons]
    omega

end InputBridge.Json
