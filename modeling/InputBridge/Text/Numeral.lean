/-!
# Numerals in fixed and free width

Everything the bridge prints is built from a few number formats: plain decimals,
zero-filled hexadecimal addresses, zero-filled binary rows, and cells aligned to
the right. Each is a function from a number to text, so that no output hangs on
how a library happens to show a value.
-/

namespace InputBridge.Text

/-- The digits of `n` in base `base`, upper case, filled up on the left with
zeros until there are at least `width` of them. -/
def zeroFilled (base width n : Nat) : List Char :=
  ((Nat.toDigits base n).map Char.toUpper).leftpad width '0'

/-- `n` in hexadecimal with at least `width` digits. -/
def hex (width n : Nat) : String := String.ofList (zeroFilled 16 width n)

/-- `n` in binary with at least `width` digits. -/
def binary (width n : Nat) : String := String.ofList (zeroFilled 2 width n)

/-- `n` in decimal, with a sign only when it is negative. -/
def decimal : Int → String
  | .ofNat n => n.repr
  | .negSucc n => "-" ++ (n + 1).repr

/-- `text` in a cell at least `width` characters wide, blanks on the left. -/
def rightAligned (width : Nat) (text : String) : String :=
  String.ofList (text.toList.leftpad width ' ')

/-- The word for a truth value. -/
def truth : Bool → String
  | true => "true"
  | false => "false"

end InputBridge.Text
