/-!
# Keys

The keys of the attached keyboard, with the code each one has in the host's
input subsystem and the short label that listings print.
-/

namespace InputBridge

/-- A key of the keyboard matrix. -/
inductive Key where
  | f1 | f2 | f3 | f4 | f5 | f6 | f7 | f8 | f9
  | n1 | n2 | n3 | n4 | n5 | n6 | n7 | n8 | n9
  | q | w | e | r | t | y | u | i | o
  | a | s | d | f | g | h | j | k | l
  | z | x | c | v | b | n | m | tab | enter
  | space | leftShift | rightShift | leftCtrl | leftAlt | backslash | comma | dot | slash
  deriving DecidableEq, Repr

namespace Key

/-- Every key, in the order of the matrix as it is wired. -/
def all : List Key :=
  [.f1, .f2, .f3, .f4, .f5, .f6, .f7, .f8, .f9,
    .n1, .n2, .n3, .n4, .n5, .n6, .n7, .n8, .n9,
    .q, .w, .e, .r, .t, .y, .u, .i, .o,
    .a, .s, .d, .f, .g, .h, .j, .k, .l,
    .z, .x, .c, .v, .b, .n, .m, .tab, .enter,
    .space, .leftShift, .rightShift, .leftCtrl, .leftAlt, .backslash, .comma, .dot, .slash]

/-- The code of a key in the host's input subsystem. -/
def code : Key → UInt16
  | .n1 => 2 | .n2 => 3 | .n3 => 4 | .n4 => 5 | .n5 => 6 | .n6 => 7 | .n7 => 8 | .n8 => 9
  | .n9 => 10 | .tab => 15
  | .q => 16 | .w => 17 | .e => 18 | .r => 19 | .t => 20 | .y => 21 | .u => 22 | .i => 23
  | .o => 24 | .enter => 28 | .leftCtrl => 29
  | .a => 30 | .s => 31 | .d => 32 | .f => 33 | .g => 34 | .h => 35 | .j => 36 | .k => 37
  | .l => 38 | .leftShift => 42 | .backslash => 43
  | .z => 44 | .x => 45 | .c => 46 | .v => 47 | .b => 48 | .n => 49 | .m => 50
  | .comma => 51 | .dot => 52 | .slash => 53 | .rightShift => 54 | .leftAlt => 56 | .space => 57
  | .f1 => 59 | .f2 => 60 | .f3 => 61 | .f4 => 62 | .f5 => 63 | .f6 => 64 | .f7 => 65
  | .f8 => 66 | .f9 => 67

/-- Shift, control and alternate keys. -/
def isModifier : Key → Bool
  | .leftCtrl | .leftShift | .rightShift | .leftAlt => true
  | _ => false

/-- The full name of a key, as log records give it. -/
def name : Key → String
  | .f1 => "F1" | .f2 => "F2" | .f3 => "F3" | .f4 => "F4" | .f5 => "F5" | .f6 => "F6"
  | .f7 => "F7" | .f8 => "F8" | .f9 => "F9"
  | .n1 => "N1" | .n2 => "N2" | .n3 => "N3" | .n4 => "N4" | .n5 => "N5" | .n6 => "N6"
  | .n7 => "N7" | .n8 => "N8" | .n9 => "N9"
  | .q => "Q" | .w => "W" | .e => "E" | .r => "R" | .t => "T" | .y => "Y" | .u => "U"
  | .i => "I" | .o => "O"
  | .a => "A" | .s => "S" | .d => "D" | .f => "F" | .g => "G" | .h => "H" | .j => "J"
  | .k => "K" | .l => "L"
  | .z => "Z" | .x => "X" | .c => "C" | .v => "V" | .b => "B" | .n => "N" | .m => "M"
  | .tab => "Tab" | .enter => "Enter" | .space => "Space"
  | .leftShift => "LShift" | .rightShift => "RShift" | .leftCtrl => "LCtrl" | .leftAlt => "LAlt"
  | .backslash => "Backslash" | .comma => "Comma" | .dot => "Dot" | .slash => "Slash"

/-- The short label of a key in listings and drawings. -/
def label : Key → String
  | .n1 => "1" | .n2 => "2" | .n3 => "3" | .n4 => "4" | .n5 => "5" | .n6 => "6"
  | .n7 => "7" | .n8 => "8" | .n9 => "9"
  | .enter => "Ent" | .space => "Spc"
  | .leftShift => "Shft" | .rightShift => "RSft" | .leftCtrl => "Ctrl" | .leftAlt => "Alt"
  | .backslash => "\\" | .comma => "," | .dot => "." | .slash => "/"
  | key => key.name

/-- The key with a given full name. -/
def named? (name : String) : Option Key := all.find? (·.name = name)

end Key

end InputBridge
