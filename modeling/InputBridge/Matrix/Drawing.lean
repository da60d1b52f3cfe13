import InputBridge.Text.Numeral
import InputBridge.Matrix.KeyMap

/-!
# The matrix as a drawing

An SVG document with one rectangle per position, staggered like a keyboard. All
lengths are whole numbers of half pixels, so the geometry is exact: `placed` puts
the keys of a row next to each other with a fixed gap, and `render` only writes
down where they are.
-/

namespace InputBridge.Drawing

/-! ## Lengths -/

/-- A length in half pixels. -/
abbrev Length := Nat

/-- A whole number of pixels. -/
def pixels (n : Nat) : Length := 2 * n

/-- A length in pixels, with a digit after the point only if it is needed. -/
def lengthText (length : Length) : String :=
  (length / 2).repr ++ (if length % 2 = 0 then "" else ".5")

/-- Side of a key of one unit. -/
def unit : Length := pixels 54

/-- Space between two keys. -/
def gap : Length := pixels 4

/-- Distance from a key of one unit to the next. -/
def pitch : Length := unit + gap

/-- Corner radius of a key. -/
def radius : Length := pixels 4

/-- Space around the drawing. -/
def margin : Length := pixels 20

/-- Space above the grid for the title. -/
def titleHeight : Length := pixels 30

/-! ## Placing the keys -/

/-- Indent of each row in quarters of the pitch, so that the rows are staggered. -/
def indentQuarters : List Nat := [0, 1, 2, 3, 4, 0]

/-- Width of a key in halves of a unit. -/
def halfUnits : Key → Nat
  | .space => 4
  | .tab | .enter | .leftShift | .rightShift => 3
  | _ => 2

/-- Width of a key. A key of several units also covers the gaps between them. -/
def keyWidth (key : Key) : Length := halfUnits key * pitch / 2 - gap

/-- A key with its place in the grid. -/
structure PlacedKey where
  x : Length
  y : Length
  width : Length
  position : Position
  key : Key
  deriving DecidableEq

/-- Places keys next to each other from `x` on. -/
def placeFrom (y : Length) : Length → List (Position × Key) → List PlacedKey
  | _, [] => []
  | x, (position, key) :: rest =>
    ⟨x, y, keyWidth key, position, key⟩ :: placeFrom y (x + keyWidth key + gap) rest

/-- The keys of one row, left to right. -/
def rowKeys (map : KeyMap) (row : Nat) : List (Position × Key) :=
  (List.range columnCount).filterMap fun column =>
    (map.get? row column).map fun key => (⟨row, column⟩, key)

/-- Every key of the map with its place, row by row. -/
def placed (map : KeyMap) : List PlacedKey :=
  indentQuarters.zipIdx.flatMap fun (quarters, row) =>
    placeFrom (row * pitch) (quarters * pitch / 4) (rowKeys map row)

/-- Right edge of the keys. -/
def gridWidth (keys : List PlacedKey) : Length :=
  keys.foldl (fun right placed => max right (placed.x + placed.width)) 0

/-- Bottom edge of the keys. -/
def gridHeight (keys : List PlacedKey) : Length :=
  keys.foldl (fun bottom placed => max bottom (placed.y + unit)) 0

/-! ## Writing it down -/

/-- The characters that mean something in XML and the entities that stand for them. Entities are
written with an ampersand, so that comes first. -/
def entities : List (Char × String) := [('&', "&amp;"), ('<', "&lt;"), ('>', "&gt;")]

/-- `text` with `replacement` in place of each `c`. -/
def replaceChar (c : Char) (replacement text : String) : String :=
  String.ofList (text.toList.flatMap fun d => if d = c then replacement.toList else [d])

/-- `text` as it stands in the text of an XML document: one character after the other is replaced
by its entity. -/
def escape (text : String) : String :=
  entities.foldl (fun escaped (c, entity) => replaceChar c entity escaped) text

/-- An attribute with its value, after a blank. -/
def attr (name value : String) : String := " " ++ name ++ "=\"" ++ value ++ "\""

/-- The rules that give classes their look. -/
def style : List String :=
  ["<style>",
    "  .bg \x7b fill: #1a1a2e; \x7d",
    "  .key \x7b fill: #16213e; stroke: #0f3460; stroke-width: 1.5; \x7d",
    "  .key.modifier \x7b fill: #1b2e4e; stroke: #53a8b6; \x7d",
    "  .label \x7b",
    "    fill: #eee;",
    "    font-family: \"JetBrains Mono\", \"Fira Code\", monospace;",
    "    font-size: 13px;",
    "    text-anchor: middle;",
    "    dominant-baseline: middle;",
    "  \x7d",
    "  .label.small \x7b font-size: 10px; \x7d",
    "  .pos \x7b fill: #667; font-family: monospace; font-size: 8px; \x7d",
    "  .title \x7b fill: #e94560; font-family: system-ui, sans-serif; font-size: 16px; " ++
      "font-weight: bold; \x7d",
    "</style>"]

/-- What stands above the keys. -/
def heading (keys : List PlacedKey) : List String :=
  ["<svg" ++ attr "width" (lengthText (gridWidth keys + 2 * margin)) ++
      attr "height" (lengthText (gridHeight keys + 2 * margin + titleHeight)) ++
      attr "xmlns" "http://www.w3.org/2000/svg" ++ ">"] ++
    style ++
    ["<rect width=\"100%\" height=\"100%\" class=\"bg\"/>",
      "<text" ++ attr "x" (lengthText margin) ++
        attr "y" (lengthText (margin + pixels 10)) ++ attr "class" "title" ++
        ">Amiga keyboard matrix (" ++ rowCount.repr ++ " x " ++ columnCount.repr ++ ")</text>",
      "<g transform=\"translate(" ++ lengthText margin ++ ", " ++
        lengthText (margin + titleHeight) ++ ")\">"]

/-- The class of a key's rectangle. -/
def keyClass (key : Key) : String := if key.isModifier then "key modifier" else "key"

/-- The class of a label; long ones are set smaller. -/
def labelClass (label : String) : String := if label.length > 3 then "label small" else "label"

/-- The rectangle of a key. -/
def rectangle (placed : PlacedKey) : String :=
  "<rect" ++ attr "x" (lengthText placed.x) ++ attr "y" (lengthText placed.y) ++
    attr "width" (lengthText placed.width) ++ attr "height" (lengthText unit) ++
    attr "rx" (lengthText radius) ++ attr "class" (keyClass placed.key) ++ "/>"

/-- The label of a key, in the middle of its rectangle. -/
def labelText (placed : PlacedKey) : String :=
  "<text" ++ attr "x" (lengthText (placed.x + placed.width / 2)) ++
    attr "y" (lengthText (placed.y + unit / 2 + pixels 1)) ++
    attr "class" (labelClass placed.key.label) ++ ">" ++ escape placed.key.label ++ "</text>"

/-- The matrix position of a key, in the corner of its rectangle. -/
def positionText (placed : PlacedKey) : String :=
  "<text" ++ attr "x" (lengthText (placed.x + pixels 4)) ++
    attr "y" (lengthText (placed.y + pixels 10)) ++ attr "class" "pos" ++ ">" ++
    placed.position.row.repr ++ "," ++ placed.position.column.repr ++ "</text>"

/-- The line of one key. -/
def keyLine (placed : PlacedKey) : String :=
  rectangle placed ++ labelText placed ++ positionText placed

/-- The document for a key map. -/
def render (map : KeyMap) : String :=
  let keys := placed map
  String.join ((heading keys ++ keys.map keyLine ++ ["</g>", "</svg>"]).map (· ++ "\n"))

end InputBridge.Drawing
