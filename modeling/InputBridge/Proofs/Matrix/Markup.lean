import InputBridge.Proofs.Matrix.Geometry
import InputBridge.Proofs.Text.Printable

/-!
# What the drawing says

A document is read back as its tags (`tags`): what stands between one opening bracket and the next
is the name of a tag, its attributes with their values in quotes, and the text behind it. A tag
that is written like this is read as it was meant (`readTag_written`), and lines that begin with a
tag are read one by one (`pieces_append`). Lengths are read as numbers of pixels
(`number_lengthText`). So what the drawing puts where can be read off the document, whatever keys
are in the map.
-/

namespace InputBridge.Drawing

/-! ## Reading a document -/

/-- A tag of a document: its name, its attributes with their values, and the text behind it. -/
structure Tag where
  name : String
  attributes : List (String × String)
  text : String
  deriving DecidableEq

/-- The attributes, from what stands between the quotes of a tag: a name between a blank and an
equals sign, and a value, by turns. -/
def readAttributes : List (List Char) → List (String × String)
  | name :: value :: rest =>
    (String.ofList name.tail.dropLast, String.ofList value) :: readAttributes rest
  | _ => []

/-- Reads a tag from what stands behind its opening bracket. -/
def readTag (piece : List Char) : Tag :=
  let name := piece.takeWhile fun c => c ≠ ' ' ∧ c ≠ '>'
  let parts := (piece.drop name.length).splitOn '"'
  ⟨String.ofList name, readAttributes parts,
    String.ofList ((parts.getLastD []).dropWhile (· ≠ '>')).tail⟩

/-- What stands behind each opening bracket, up to the next one. -/
def pieces (cs : List Char) : List (List Char) := (cs.splitOn '<').tail

/-- The tags of a document, in order. -/
def tags (document : String) : List Tag := (pieces document.toList).map readTag

/-- The number that digits stand for, maybe with a point among them. -/
def number (text : String) : ℚ :=
  let value (digits : List Char) : ℚ := (Nat.ofDigitChars 10 digits 0 : Nat)
  match text.toList.splitOn '.' with
  | [whole] => value whole
  | [whole, fraction] => value whole + value fraction / 10 ^ fraction.length
  | _ => 0

namespace Tag

/-- The value of an attribute as a number. -/
def number (tag : Tag) (name : String) : ℚ :=
  Drawing.number ((tag.attributes.lookup name).getD "")

/-- Where the tag puts something. -/
def point (tag : Tag) : ℚ × ℚ := (tag.number "x", tag.number "y")

/-- Is the tag one that draws something, or that says how large the sheet is or where things are
on it? -/
def isShape (tag : Tag) : Bool := tag.name ∈ ["svg", "g", "rect", "text"]

end Tag

/-! ## Lengths -/

theorem number_lengthText (length : Length) : number (lengthText length) = inPixels length := by
  have hpoint : '.' ∉ (length / 2).repr.toList :=
    fun hin => absurd (Text.isDigit_of_mem_repr hin) (by decide)
  have hwhole : Nat.ofDigitChars 10 (length / 2).repr.toList 0 = length / 2 := by
    rw [Nat.repr_eq_ofList_toDigits, String.toList_ofList, Nat.ofDigitChars_ten_toDigits]
  have hdivided : (length : ℚ) = 2 * (length / 2 : Nat) + (length % 2 : Nat) := by
    exact_mod_cast (Nat.div_add_mod length 2).symm
  unfold number lengthText inPixels
  rcases Nat.mod_two_eq_zero_or_one length with heven | hodd
  · rw [if_pos heven, String.append_empty, List.splitOn_eq_singleton hpoint, hdivided, heven]
    dsimp only
    rw [hwhole]
    push_cast
    ring
  · have hhalf : Nat.ofDigitChars 10 ['5'] 0 = 5 := by decide
    have hfraction : ".5".toList = '.' :: ['5'] := rfl
    rw [if_neg (by rw [hodd]; decide), String.toList_append, hfraction,
      List.splitOn_append_cons_self_of_not_mem hpoint, List.splitOn_eq_singleton (by decide),
      hdivided, hodd]
    dsimp only
    rw [hwhole, hhalf]
    push_cast
    norm_num
    ring

/-! ## A tag that is read -/

/-- The text ends no value and opens no tag. -/
def Plain (text : String) : Prop := '"' ∉ text.toList ∧ '<' ∉ text.toList

instance : DecidablePred Plain := fun text =>
  inferInstanceAs (Decidable ('"' ∉ text.toList ∧ '<' ∉ text.toList))

theorem Plain.append {text more : String} (h : Plain text) (hmore : Plain more) :
    Plain (text ++ more) := by
  unfold Plain
  rw [String.toList_append, List.mem_append, List.mem_append, not_or, not_or]
  exact ⟨⟨h.1, hmore.1⟩, h.2, hmore.2⟩

theorem plain_repr (n : Nat) : Plain n.repr :=
  ⟨fun hin => absurd (Text.isDigit_of_mem_repr hin) (by decide),
    fun hin => absurd (Text.isDigit_of_mem_repr hin) (by decide)⟩

theorem plain_lengthText (length : Length) : Plain (lengthText length) := by
  refine (plain_repr _).append ?_
  split <;> decide

/-- A tag as it is written: its name, its attributes, and what comes behind the last value. -/
def written (name : String) (attributes : List (String × String)) (ending : String) : String :=
  name ++ String.join (attributes.map fun (name, value) => attr name value) ++ ending

/-- Names and values of attributes that are plain. -/
def PlainPairs (attributes : List (String × String)) : Prop :=
  ∀ pair ∈ attributes, Plain pair.1 ∧ Plain pair.2

theorem not_mem_written {name ending : String} {attributes : List (String × String)}
    (hname : '<' ∉ name.toList) (hattributes : PlainPairs attributes) (hending : Plain ending) :
    '<' ∉ (written name attributes ending).toList := by
  have hwritten : ∀ pair ∈ attributes, '<' ∉ (attr pair.1 pair.2).toList := by
    intro pair hin
    obtain ⟨hname, hvalue⟩ := hattributes pair hin
    simp [attr, hname.2, hvalue.2]
  unfold written
  simp only [String.toList_append, String.toList_join, List.mem_append, List.mem_flatMap,
    List.mem_map, not_or]
  refine ⟨⟨hname, ?_⟩, hending.2⟩
  rintro ⟨_, ⟨pair, hin, rfl⟩, hc⟩
  exact hwritten pair hin hc

/-- What stands between quotes in an attribute, and before them. -/
def quoted (pair : String × String) : List (List Char) :=
  [' ' :: (pair.1.toList ++ ['=']), pair.2.toList]

theorem splitOn_attr {name value : String} (hname : Plain name) (hvalue : Plain value)
    (more : List Char) : ((attr name value).toList ++ more).splitOn '"' =
      quoted (name, value) ++ more.splitOn '"' := by
  have hbefore : '"' ∉ ' ' :: (name.toList ++ ['=']) := by simp [hname.1]
  have hattr : (attr name value).toList ++ more =
      ' ' :: (name.toList ++ ['=']) ++ '"' :: (value.toList ++ '"' :: more) := by simp [attr]
  rw [hattr, List.splitOn_append_cons_self_of_not_mem hbefore,
    List.splitOn_append_cons_self_of_not_mem hvalue.1]
  rfl

/-- Between the quotes of a tag there are its attributes and their values, by turns. -/
theorem splitOn_attributes {ending : List Char} (hending : '"' ∉ ending) :
    ∀ {attributes : List (String × String)}, PlainPairs attributes →
      (attributes.flatMap (fun pair => (attr pair.1 pair.2).toList) ++ ending).splitOn '"' =
        attributes.flatMap quoted ++ [ending]
  | [], _ => List.splitOn_eq_singleton hending
  | (name, value) :: rest, h => by
    obtain ⟨⟨hname, hvalue⟩, hrest⟩ := List.forall_mem_cons.mp h
    rw [List.flatMap_cons, List.flatMap_cons, List.append_assoc, splitOn_attr hname hvalue,
      splitOn_attributes hending hrest, List.append_assoc]

theorem readAttributes_append (ending : List Char) : ∀ attributes : List (String × String),
    readAttributes (attributes.flatMap quoted ++ [ending]) = attributes
  | [] => rfl
  | (name, value) :: rest => by
    have hname : String.ofList (' ' :: (name.toList ++ ['='])).tail.dropLast = name := by
      rw [List.tail_cons, List.dropLast_concat, String.ofList_toList]
    rw [List.flatMap_cons, List.append_assoc]
    show (String.ofList _, String.ofList value.toList) ::
      readAttributes (rest.flatMap quoted ++ [ending]) = _
    rw [hname, String.ofList_toList, readAttributes_append ending rest]

/-- A tag with attributes is read as it was written. -/
theorem readTag_written {name ending : String} {first : String × String}
    {rest : List (String × String)} (hname : name.toList.all Char.isAlpha = true)
    (hattributes : PlainPairs (first :: rest)) (hending : Plain ending) :
    readTag (written name (first :: rest) ending).toList =
      ⟨name, first :: rest, String.ofList (ending.toList.dropWhile (· ≠ '>')).tail⟩ := by
  let behind := (first :: rest).flatMap (fun pair => (attr pair.1 pair.2).toList) ++ ending.toList
  have hwritten : (written name (first :: rest) ending).toList = name.toList ++ behind := by
    simp [written, behind, String.toList_join, List.flatMap_map]
  have hblank : behind = ' ' :: behind.tail := by simp [behind, attr]
  have hread : (name.toList ++ behind).takeWhile (fun c => c ≠ ' ' ∧ c ≠ '>') = name.toList := by
    have hletter : ∀ c ∈ name.toList, decide (c ≠ ' ' ∧ c ≠ '>') = true := by
      refine fun c hc => decide_eq_true ⟨?_, ?_⟩ <;> rintro rfl <;>
        exact nomatch List.all_eq_true.mp hname _ hc
    rw [List.takeWhile_append_of_pos hletter, hblank]
    simp
  unfold readTag
  rw [hwritten, hread]
  dsimp only
  rw [List.drop_left, splitOn_attributes hending.1 hattributes, readAttributes_append,
    List.getLastD_concat, String.ofList_toList]

/-! ## A document that is read -/

/-- The tags of a text that draw something. -/
def shapes (cs : List Char) : List Tag := ((pieces cs).map readTag).filter Tag.isShape

/-- Text that begins with a tag is read on its own. -/
theorem shapes_append (cs : List Char) {rest : List Char} (h : rest.head? = some '<') :
    shapes (cs ++ rest) = shapes cs ++ shapes rest := by
  obtain ⟨more, rfl⟩ : ∃ more, rest = '<' :: more := List.head?_eq_some_iff.mp h
  have hfirst : ('<' :: more).splitOn '<' = [] :: more.splitOn '<' :=
    List.splitOn_append_cons_self_of_not_mem List.not_mem_nil more
  unfold shapes pieces
  rw [List.splitOn_append_cons_self, hfirst, List.tail_cons,
    List.tail_append_of_ne_nil (List.splitOn_ne_nil _ _), List.map_append, List.filter_append]

section Blocks

variable {α : Type} {block : α → List Char} {rest : List Char} (hrest : rest.head? = some '<')

include hrest

theorem head?_flatMap_append {blocks : List α} (h : ∀ a ∈ blocks, (block a).head? = some '<') :
    (blocks.flatMap block ++ rest).head? = some '<' := by
  cases blocks with
  | nil => exact hrest
  | cons a more => simp [List.head?_append, h a (List.mem_cons_self ..)]

theorem shapes_flatMap : ∀ {blocks : List α}, (∀ a ∈ blocks, (block a).head? = some '<') →
    shapes (blocks.flatMap block ++ rest) =
      blocks.flatMap (fun a => shapes (block a)) ++ shapes rest
  | [], _ => rfl
  | a :: more, h => by
    have hmore := (List.forall_mem_cons.mp h).2
    rw [List.flatMap_cons, List.append_assoc,
      shapes_append _ (head?_flatMap_append hrest hmore), shapes_flatMap hmore,
      List.flatMap_cons, List.append_assoc]

end Blocks

/-- One tag that draws something. -/
theorem shapes_written {name ending : String} {first : String × String}
    {rest : List (String × String)} (hname : name.toList.all Char.isAlpha = true)
    (hattributes : PlainPairs (first :: rest)) (hending : Plain ending) {tag : Tag}
    (htag : tag = ⟨name, first :: rest, String.ofList (ending.toList.dropWhile (· ≠ '>')).tail⟩)
    (hshape : tag.isShape = true) :
    shapes ("<" ++ written name (first :: rest) ending).toList = [tag] := by
  have hbody : '<' ∉ (written name (first :: rest) ending).toList :=
    not_mem_written (fun hin => nomatch List.all_eq_true.mp hname _ hin) hattributes hending
  have hopened : ("<" ++ written name (first :: rest) ending).toList =
      [] ++ '<' :: (written name (first :: rest) ending).toList := by simp
  have hpieces : pieces ("<" ++ written name (first :: rest) ending).toList =
      [(written name (first :: rest) ending).toList] := by
    unfold pieces
    rw [hopened, List.splitOn_append_cons_self_of_not_mem List.not_mem_nil, List.tail_cons,
      List.splitOn_eq_singleton hbody]
  unfold shapes
  rw [hpieces, List.map_singleton, readTag_written hname hattributes hending, ← htag,
    List.filter_cons_of_pos hshape, List.filter_nil]

-- A length and a text, as a document has them.
example : tags "<text x=\"4.5\">Tab</text>" =
    [⟨"text", [("x", "4.5")], "Tab"⟩, ⟨"/text", [], ""⟩] := by decide

/-- A text with a place, up to the end of its element and of the line. -/
theorem shapes_text {content value closing : String} {rest : List (String × String)}
    (hattributes : PlainPairs (("x", value) :: rest)) (hcontent : Plain content)
    (hclosing : closing ∈ ["</text>", "</text>\n"]) :
    shapes ("<" ++ written "text" (("x", value) :: rest) (">" ++ content) ++ closing).toList =
      [⟨"text", ("x", value) :: rest, content⟩] := by
  have hnothing : ∀ closing ∈ ["</text>", "</text>\n"],
      closing.toList.head? = some '<' ∧ shapes closing.toList = [] := by decide
  obtain ⟨hopens, hnone⟩ := hnothing closing hclosing
  have hbehind : String.ofList ((">" ++ content).toList.dropWhile (· ≠ '>')).tail = content := by
    simp
  rw [String.toList_append, shapes_append _ hopens, hnone, List.append_nil]
  refine shapes_written (by decide) hattributes (Plain.append (by decide) hcontent) ?_ rfl
  rw [hbehind]

/-! ## The drawing -/

/-- The tag of the sheet, as big as the keys and the space around them. -/
def sheetTag (keys : List PlacedKey) : Tag :=
  ⟨"svg", [("width", lengthText (gridWidth keys + 2 * margin)),
    ("height", lengthText (gridHeight keys + 2 * margin + titleHeight)),
    ("xmlns", "http://www.w3.org/2000/svg")], "\n"⟩

/-- The tag of the rectangle that covers the sheet. -/
def backdropTag : Tag := ⟨"rect", [("width", "100%"), ("height", "100%"), ("class", "bg")], "\n"⟩

/-- The tag of the title. -/
def titleTag : Tag :=
  ⟨"text", [("x", lengthText margin), ("y", lengthText (margin + pixels 10)), ("class", "title")],
    "Amiga keyboard matrix (" ++ rowCount.repr ++ " x " ++ columnCount.repr ++ ")"⟩

/-- The tag of the grid, which moves all that follows to its corner. -/
def gridTag : Tag :=
  ⟨"g", [("transform",
    "translate(" ++ lengthText margin ++ ", " ++ lengthText (margin + titleHeight) ++ ")")], "\n"⟩

/-- The tag of a key's rectangle. -/
def rectangleTag (placed : PlacedKey) : Tag :=
  ⟨"rect", [("x", lengthText placed.x), ("y", lengthText placed.y),
    ("width", lengthText placed.width), ("height", lengthText unit), ("rx", lengthText radius),
    ("class", keyClass placed.key)], ""⟩

/-- The tag of a key's label. -/
def labelTag (placed : PlacedKey) : Tag :=
  ⟨"text", [("x", lengthText (placed.x + placed.width / 2)),
    ("y", lengthText (placed.y + unit / 2 + pixels 1)),
    ("class", labelClass placed.key.label)], placed.key.label⟩

/-- The tag of a key's position. -/
def positionTag (placed : PlacedKey) : Tag :=
  ⟨"text", [("x", lengthText (placed.x + pixels 4)), ("y", lengthText (placed.y + pixels 10)),
    ("class", "pos")], placed.position.row.repr ++ "," ++ placed.position.column.repr⟩

theorem plain_label (key : Key) : Plain key.label ∧ escape key.label = key.label := by
  have hall : ∀ key ∈ Key.all, Plain key.label ∧ escape key.label = key.label := by decide +kernel
  exact hall key (KeyMap.mem_all_keys key)

theorem plain_keyClass (key : Key) : Plain (keyClass key) := by
  unfold keyClass
  split <;> decide

theorem plain_labelClass (label : String) : Plain (labelClass label) := by
  unfold labelClass
  split <;> decide

theorem shapes_rectangle (placed : PlacedKey) :
    shapes (rectangle placed).toList = [rectangleTag placed] := by
  have hpairs : PlainPairs (rectangleTag placed).attributes := by
    have hlength := plain_lengthText
    simp only [PlainPairs, rectangleTag, List.forall_mem_cons]
    exact ⟨⟨by decide, hlength _⟩, ⟨by decide, hlength _⟩, ⟨by decide, hlength _⟩,
      ⟨by decide, hlength _⟩, ⟨by decide, hlength _⟩, ⟨by decide, plain_keyClass _⟩, nofun⟩
  have hwritten : rectangle placed =
      "<" ++ written "rect" (rectangleTag placed).attributes "/>" := by
    rw [← String.toList_inj]
    simp [rectangle, written, rectangleTag]
  rw [hwritten]
  exact shapes_written (by decide) hpairs (by decide) rfl rfl

theorem shapes_labelText (placed : PlacedKey) :
    shapes (labelText placed).toList = [labelTag placed] := by
  obtain ⟨hlabel, hescape⟩ := plain_label placed.key
  have hpairs : PlainPairs (labelTag placed).attributes := by
    simp only [PlainPairs, labelTag, List.forall_mem_cons]
    exact ⟨⟨by decide, plain_lengthText _⟩, ⟨by decide, plain_lengthText _⟩,
      ⟨by decide, plain_labelClass _⟩, nofun⟩
  have hwritten : labelText placed = "<" ++ written "text" (labelTag placed).attributes
      (">" ++ placed.key.label) ++ "</text>" := by
    rw [← String.toList_inj]
    simp [labelText, written, labelTag, hescape]
  rw [hwritten]
  exact shapes_text hpairs hlabel (by decide)

theorem shapes_positionText (placed : PlacedKey) :
    shapes (positionText placed ++ "\n").toList = [positionTag placed] := by
  have hpairs : PlainPairs (positionTag placed).attributes := by
    simp only [PlainPairs, positionTag, List.forall_mem_cons]
    exact ⟨⟨by decide, plain_lengthText _⟩, ⟨by decide, plain_lengthText _⟩,
      ⟨by decide, by decide⟩, nofun⟩
  have hwritten : positionText placed ++ "\n" = "<" ++ written "text"
      (positionTag placed).attributes (">" ++ (positionTag placed).text) ++ "</text>\n" := by
    rw [← String.toList_inj]
    simp [positionText, written, positionTag]
  rw [hwritten]
  exact shapes_text hpairs (((plain_repr _).append (by decide)).append (plain_repr _))
    (by decide)

/-- The line of a key. -/
theorem shapes_keyLine (placed : PlacedKey) :
    shapes (keyLine placed ++ "\n").toList =
      [rectangleTag placed, labelTag placed, positionTag placed] := by
  have hline : (keyLine placed ++ "\n").toList = (rectangle placed).toList ++
      ((labelText placed).toList ++ (positionText placed ++ "\n").toList) := by simp [keyLine]
  have hposition : (positionText placed ++ "\n").toList.head? = some '<' := by simp [positionText]
  have hlabel : ((labelText placed).toList ++ (positionText placed ++ "\n").toList).head? =
      some '<' := by simp [labelText]
  rw [hline, shapes_append _ hlabel, shapes_append _ hposition, shapes_rectangle,
    shapes_labelText, shapes_positionText]
  rfl

/-- The rules that give classes their look draw nothing. -/
theorem shapes_style :
    shapes ((style.map (· ++ "\n")).flatMap String.toList) = [] := by decide +kernel

/-- The line of the sheet. -/
def sheetLine (keys : List PlacedKey) : String :=
  "<" ++ written "svg" (sheetTag keys).attributes ">\n"

/-- The line of the rectangle that covers the sheet. -/
def backdropLine : String := "<" ++ written "rect" backdropTag.attributes "/>\n"

/-- The line of the title. -/
def titleLine : String :=
  "<" ++ written "text" titleTag.attributes (">" ++ titleTag.text) ++ "</text>\n"

/-- The line that opens the grid. -/
def gridLine : String := "<" ++ written "g" gridTag.attributes ">\n"

theorem heading_eq (keys : List PlacedKey) :
    ((heading keys).map (· ++ "\n")).flatMap String.toList = (sheetLine keys).toList ++
      ((style.map (· ++ "\n")).flatMap String.toList ++
        (backdropLine.toList ++ (titleLine.toList ++ gridLine.toList))) := by
  have hsheet : ("<svg" ++ attr "width" (lengthText (gridWidth keys + 2 * margin)) ++
      attr "height" (lengthText (gridHeight keys + 2 * margin + titleHeight)) ++
      attr "xmlns" "http://www.w3.org/2000/svg" ++ ">") ++ "\n" = sheetLine keys := by
    rw [← String.toList_inj]
    simp [sheetLine, written, sheetTag]
  have hbackdrop :
      "<rect width=\"100%\" height=\"100%\" class=\"bg\"/>" ++ "\n" = backdropLine := by
    rw [← String.toList_inj]
    simp [backdropLine, written, backdropTag, attr]
  have htitle : ("<text" ++ attr "x" (lengthText margin) ++
      attr "y" (lengthText (margin + pixels 10)) ++ attr "class" "title" ++
      ">Amiga keyboard matrix (" ++ rowCount.repr ++ " x " ++ columnCount.repr ++ ")</text>") ++
      "\n" = titleLine := by
    rw [← String.toList_inj]
    simp [titleLine, written, titleTag]
  have hgrid : ("<g transform=\"translate(" ++ lengthText margin ++ ", " ++
      lengthText (margin + titleHeight) ++ ")\">") ++ "\n" = gridLine := by
    rw [← String.toList_inj]
    simp [gridLine, written, gridTag, attr]
  unfold heading
  simp only [List.map_append, List.map_cons, List.map_nil, List.flatMap_append, List.flatMap_cons,
    List.flatMap_nil, List.append_nil, List.cons_append, List.nil_append, hsheet,
    hbackdrop, htitle, hgrid]

theorem shapes_sheetLine (keys : List PlacedKey) :
    shapes (sheetLine keys).toList = [sheetTag keys] := by
  have hpairs : PlainPairs (sheetTag keys).attributes := by
    simp only [PlainPairs, sheetTag, List.forall_mem_cons]
    exact ⟨⟨by decide, plain_lengthText _⟩, ⟨by decide, plain_lengthText _⟩,
      ⟨by decide, by decide⟩, nofun⟩
  exact shapes_written (by decide) hpairs (by decide) rfl rfl

theorem shapes_backdropLine : shapes backdropLine.toList = [backdropTag] := by
  have hpairs : PlainPairs backdropTag.attributes := by unfold PlainPairs; decide
  exact shapes_written (by decide) hpairs (by decide) rfl rfl

theorem shapes_titleLine : shapes titleLine.toList = [titleTag] := by
  have hpairs : PlainPairs titleTag.attributes := by unfold PlainPairs; decide
  exact shapes_text hpairs (by decide) (by decide)

theorem shapes_gridLine : shapes gridLine.toList = [gridTag] := by
  have hpairs : PlainPairs gridTag.attributes := by unfold PlainPairs; decide
  exact shapes_written (by decide) hpairs (by decide) rfl rfl

theorem shapes_heading (keys : List PlacedKey) :
    shapes (((heading keys).map (· ++ "\n")).flatMap String.toList) =
      [sheetTag keys, backdropTag, titleTag, gridTag] := by
  have hstyle : ((style.map (· ++ "\n")).flatMap String.toList ++ (backdropLine.toList ++
      (titleLine.toList ++ gridLine.toList))).head? = some '<' := by
    have hfirst : (("<style>" ++ "\n").toList).head? = some '<' := by decide
    rw [List.head?_append]
    unfold style
    rw [List.map_cons, List.flatMap_cons, List.head?_append, hfirst]
    rfl
  have hbackdrop : (backdropLine.toList ++ (titleLine.toList ++ gridLine.toList)).head? =
      some '<' := by simp [backdropLine]
  have htitle : (titleLine.toList ++ gridLine.toList).head? = some '<' := by simp [titleLine]
  have hgrid : gridLine.toList.head? = some '<' := by simp [gridLine]
  rw [heading_eq, shapes_append _ hstyle, shapes_append _ hbackdrop,
    shapes_append _ htitle, shapes_append _ hgrid, shapes_sheetLine, shapes_style,
    shapes_backdropLine, shapes_titleLine, shapes_gridLine]
  rfl

/-- The document, tag by tag as far as something is drawn: the sheet and the rectangle that covers
it, the title and the grid, and then for each key its rectangle, its label and its position. -/
theorem shapes_render (map : KeyMap) :
    shapes (render map).toList = sheetTag (placed map) :: backdropTag :: titleTag :: gridTag ::
      (placed map).flatMap fun placed =>
        [rectangleTag placed, labelTag placed, positionTag placed] := by
  have hdocument : (render map).toList =
      ((heading (placed map)).map (· ++ "\n")).flatMap String.toList ++
        ((placed map).flatMap (fun placed => (keyLine placed ++ "\n").toList) ++
          "</g>\n</svg>\n".toList) := by
    simp [render, String.toList_join, List.flatMap_map]
  have hclosing : "</g>\n</svg>\n".toList.head? = some '<' ∧
      shapes "</g>\n</svg>\n".toList = [] := by decide
  have hlines : ∀ key ∈ placed map, (keyLine key ++ "\n").toList.head? = some '<' :=
    fun key _ => by simp [keyLine, rectangle]
  rw [hdocument, shapes_append _ (head?_flatMap_append hclosing.1 hlines),
    shapes_heading, shapes_flatMap hclosing.1 hlines, hclosing.2, List.append_nil,
    List.flatMap_congr fun key _ => shapes_keyLine key]
  rfl

/-! ## What is drawn of a key -/

/-- The tags of a key put the rectangle where the key is, the label in the middle of it from left
to right, and the label and the position on it. -/
structure WellDrawn (placed : PlacedKey) : Prop where
  corner : (rectangleTag placed).point = (inPixels placed.x, inPixels placed.y)
  width : (rectangleTag placed).number "width" = inPixels placed.width
  height : (rectangleTag placed).number "height" = inPixels unit
  centred : (labelTag placed).number "x" = inPixels placed.x + inPixels placed.width / 2
  label : (labelTag placed).point ∈ placed.region
  position : (positionTag placed).point ∈ placed.region

theorem inPixels_mem {start length offset : Length} (h : offset ≤ length) :
    inPixels (start + offset) ∈ Set.Icc (inPixels start) (inPixels (start + length)) :=
  ⟨inPixels_le.mpr (Nat.le_add_right ..), inPixels_le.mpr (Nat.add_le_add_left h _)⟩

/-- A tag whose attributes begin with a place. -/
theorem point_eq (name text : String) (x y : Length) (rest : List (String × String)) :
    Tag.point ⟨name, ("x", lengthText x) :: ("y", lengthText y) :: rest, text⟩ =
      (inPixels x, inPixels y) :=
  Prod.ext (number_lengthText x) (number_lengthText y)

theorem wellDrawn {placed : PlacedKey} (hwidth : placed.width = keyWidth placed.key) :
    WellDrawn placed := by
  have heven := two_mul_keyWidth_div_two placed.key
  have hhalf : inPixels (placed.width / 2) = inPixels placed.width / 2 := by
    rw [← hwidth] at heven
    have hcast : (placed.width : ℚ) = 2 * (placed.width / 2 : Nat) := by exact_mod_cast heven.symm
    unfold inPixels
    rw [hcast]
    ring
  have hroom : pixels 4 ≤ placed.width := by
    have hall : ∀ key ∈ Key.all, pixels 4 ≤ keyWidth key := by decide
    rw [hwidth]
    exact hall placed.key (KeyMap.mem_all_keys _)
  refine ⟨point_eq .., number_lengthText _, number_lengthText _, ?_, ?_, ?_⟩
  · rw [← hhalf, ← inPixels_add]
    exact number_lengthText _
  · rw [labelTag, point_eq, Nat.add_assoc]
    exact ⟨inPixels_mem (Nat.div_le_self ..), inPixels_mem (by decide)⟩
  · rw [positionTag, point_eq]
    exact ⟨inPixels_mem hroom, inPixels_mem (by decide)⟩

/-- **The drawing of a key map.** Whatever keys are in the map, the laid-out keys are those of the
54 positions, once each and row by row. In each row the first key is at the indent and each other
one a gap behind the one before it. No two rectangles have a point in common, and all of them lie
in the box around the keys, and on the sheet once the grid is moved to its corner. The document
draws the sheet, the title and the grid, and then for each key in this order one rectangle, one
label and one text with row and column, and nothing else. The numbers in the document are the size
of the sheet; and they put the rectangle where the key is, the label in the middle of it from left
to right, and both texts on it. -/
theorem render_geometry (map : KeyMap) :
    let keys := placed map
    (keys.map PlacedKey.position = Position.all ∧ ∀ key ∈ keys,
      map.get? key.position.row key.position.column = some key.key ∧
        key.width = keyWidth key.key) ∧
    (∀ quarters row, (quarters, row) ∈ indentQuarters.zipIdx →
      IsRow quarters row (keys.filter (·.position.row = row))) ∧
    (keys.Pairwise fun left right => ∀ point ∈ left.region, point ∉ right.region) ∧
    (∀ key ∈ keys, key.region ⊆ box keys ∧
      ∀ point ∈ key.region, point + gridCorner ∈ sheet keys) ∧
    (tags (render map)).filter Tag.isShape = sheetTag keys :: backdropTag :: titleTag :: gridTag ::
      keys.flatMap (fun key => [rectangleTag key, labelTag key, positionTag key]) ∧
    sheet keys = Set.Icc 0 ((sheetTag keys).number "width") ×ˢ
      Set.Icc 0 ((sheetTag keys).number "height") ∧
    gridCorner = (number (lengthText margin), number (lengthText (margin + titleHeight))) ∧
    ∀ key ∈ keys, WellDrawn key := by
  intro keys
  have hkey : ∀ key ∈ keys, map.get? key.position.row key.position.column = some key.key ∧
      key.width = keyWidth key.key := by
    intro key hin
    obtain ⟨entry, -, hrow⟩ := List.mem_flatMap.mp hin
    obtain ⟨-, -, hwidth, hget⟩ := of_mem_placedRow hrow
    exact ⟨hget, hwidth⟩
  have hwidth : (sheetTag keys).number "width" = inPixels (gridWidth keys + 2 * margin) :=
    number_lengthText _
  have hheight : (sheetTag keys).number "height" =
      inPixels (gridHeight keys + 2 * margin + titleHeight) := number_lengthText _
  refine ⟨⟨positions_placed map, hkey⟩, ?_, pairwise_apart_placed map, ?_, shapes_render map,
    ?_, ?_, fun key hin => wellDrawn (hkey key hin).2⟩
  · intro quarters row hin
    rw [filter_placed map hin]
    exact isRow_placedRow map quarters (row_lt_of_mem_zipIdx _ hin)
  · intro key hin
    have hbox := region_subset_box hin
    exact ⟨hbox, fun point hpoint => add_gridCorner_mem_sheet (hbox hpoint)⟩
  · rw [hwidth, hheight]
    rfl
  · rw [number_lengthText, number_lengthText]
    rfl

end InputBridge.Drawing
