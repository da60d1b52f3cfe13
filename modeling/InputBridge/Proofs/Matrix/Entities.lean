import InputBridge.Matrix.Drawing
import Mathlib.Data.List.Infix

/-!
# Text in the drawing

What is written into the document must not be taken for markup. `escape` replaces one special
character after the other, in three passes over the whole text. A pass replaces every character
by itself, and so do all of them together (`passes_eq_flatMap`): what becomes of a character does
not depend on its neighbours. So it is enough to follow each special character through the passes
(`toList_escape`). The ampersand must be the first of them. A later pass would also replace the
ampersands of the entities that earlier ones have written.

`unescape` reads the entities back in a single pass (`unescape_escape`), also where the text held
something that looked like an entity before.
-/

namespace InputBridge.Drawing

/-! ## Three passes -/

/-- The passes of `table`, one after the other. -/
def passes (table : List (Char × String)) (text : List Char) : List Char :=
  table.foldl
    (fun text (c, entity) => text.flatMap fun d => if d = c then entity.toList else [d]) text

theorem toList_foldl_replaceChar : ∀ (table : List (Char × String)) (text : String),
    (table.foldl (fun escaped (c, entity) => replaceChar c entity escaped) text).toList =
      passes table text.toList
  | [], _ => rfl
  | (c, entity) :: rest, text => by
    show (rest.foldl _ (replaceChar c entity text)).toList = passes rest _
    rw [toList_foldl_replaceChar rest, replaceChar, String.toList_ofList]

theorem passes_append : ∀ (table : List (Char × String)) (before after : List Char),
    passes table (before ++ after) = passes table before ++ passes table after
  | [], _, _ => rfl
  | (c, entity) :: rest, before, after => by
    show passes rest ((before ++ after).flatMap _) = _
    rw [List.flatMap_append, passes_append rest]
    rfl

/-- What becomes of a character is the same wherever it stands. -/
theorem passes_eq_flatMap (table : List (Char × String)) (text : List Char) :
    passes table text = text.flatMap fun c => passes table [c] := by
  induction text with
  | nil =>
    induction table with
    | nil => rfl
    | cons entry rest ih => exact ih
  | cons c rest ih =>
    rw [List.flatMap_cons, ← ih]
    exact passes_append table [c] rest

/-- A character that is not special is left alone. -/
theorem passes_of_plain {c : Char} : ∀ {table : List (Char × String)},
    (∀ entry ∈ table, entry.1 ≠ c) → passes table [c] = [c]
  | [], _ => rfl
  | (special, entity) :: rest, h => by
    obtain ⟨hne, hrest⟩ := List.forall_mem_cons.mp h
    show passes rest ([c].flatMap _) = [c]
    rw [List.flatMap_singleton, if_neg (Ne.symm hne), passes_of_plain hrest]

/-- A special character ends up as its entity: no later pass touches that again. -/
theorem passes_of_special : ∀ entry ∈ entities, passes entities [entry.1] = entry.2.toList := by
  decide

theorem toList_escape (text : String) :
    (escape text).toList = text.toList.flatMap fun c => passes entities [c] := by
  unfold escape
  rw [toList_foldl_replaceChar, passes_eq_flatMap]

/-- A character comes out as an entity if it has one, and as itself if not. -/
theorem passes_cases (c : Char) :
    (∃ entity, (c, entity) ∈ entities ∧ passes entities [c] = entity.toList) ∨
      (∀ entry ∈ entities, entry.1 ≠ c) ∧ passes entities [c] = [c] := by
  by_cases h : ∃ entry ∈ entities, entry.1 = c
  · obtain ⟨⟨special, entity⟩, hin, rfl⟩ := h
    exact Or.inl ⟨entity, hin, passes_of_special _ hin⟩
  · have hplain : ∀ entry ∈ entities, entry.1 ≠ c := fun entry hin he => h ⟨entry, hin, he⟩
    exact Or.inr ⟨hplain, passes_of_plain hplain⟩

/-! ## Reading entities back -/

/-- Reads entities as the characters that they stand for, once from left to right. -/
def unescapeChars : List Char → List Char
  | '&' :: 'a' :: 'm' :: 'p' :: ';' :: rest => '&' :: unescapeChars rest
  | '&' :: 'l' :: 't' :: ';' :: rest => '<' :: unescapeChars rest
  | '&' :: 'g' :: 't' :: ';' :: rest => '>' :: unescapeChars rest
  | c :: rest => c :: unescapeChars rest
  | [] => []

/-- The text that an escaped text stands for. -/
def unescape (text : String) : String := String.ofList (unescapeChars text.toList)

theorem unescapeChars_entity (rest : List Char) : ∀ entry ∈ entities,
    unescapeChars (entry.2.toList ++ rest) = entry.1 :: unescapeChars rest := by
  unfold entities
  simp only [List.forall_mem_cons]
  exact ⟨rfl, rfl, rfl, nofun⟩

theorem unescapeChars_cons {c : Char} (h : c ≠ '&') (rest : List Char) :
    unescapeChars (c :: rest) = c :: unescapeChars rest := by
  conv_lhs => unfold unescapeChars
  split <;> simp_all

theorem unescapeChars_passes (c : Char) (rest : List Char) :
    unescapeChars (passes entities [c] ++ rest) = c :: unescapeChars rest := by
  rcases passes_cases c with ⟨entity, hin, hentity⟩ | ⟨hplain, hself⟩
  · rw [hentity]
    exact unescapeChars_entity rest _ hin
  · have hne : c ≠ '&' := (hplain ('&', "&amp;") (List.mem_cons_self ..)).symm
    rw [hself]
    exact unescapeChars_cons hne rest

theorem unescape_escape (text : String) : unescape (escape text) = text := by
  have hchars : ∀ cs : List Char,
      unescapeChars (cs.flatMap fun c => passes entities [c]) = cs := by
    intro cs
    induction cs with
    | nil => rfl
    | cons c rest ih => rw [List.flatMap_cons, unescapeChars_passes, ih]
  rw [unescape, toList_escape, hchars, String.ofList_toList]

/-! ## What an escaped text looks like -/

/-- The brackets of tags do not occur in an escaped text. -/
theorem not_mem_escape {bracket : Char} (hbracket : bracket = '<' ∨ bracket = '>')
    (text : String) : bracket ∉ (escape text).toList := by
  have hspecial : ∃ entity, (bracket, entity) ∈ entities := by
    rcases hbracket with rfl | rfl
    · exact ⟨"&lt;", by decide⟩
    · exact ⟨"&gt;", by decide⟩
  have hentities : ∀ entry ∈ entities, '<' ∉ entry.2.toList ∧ '>' ∉ entry.2.toList := by decide
  intro hin
  rw [toList_escape] at hin
  obtain ⟨c, -, hc⟩ := List.mem_flatMap.mp hin
  rcases passes_cases c with ⟨entity, hentry, hentity⟩ | ⟨hplain, hself⟩
  · rw [hentity] at hc
    obtain ⟨hless, hgreater⟩ := hentities _ hentry
    rcases hbracket with rfl | rfl
    · exact hless hc
    · exact hgreater hc
  · rw [hself, List.mem_singleton] at hc
    obtain ⟨entity, hentry⟩ := hspecial
    exact hplain _ hentry hc

/-- A piece of text without `c` is not where an ending that begins with `c` begins. -/
theorem suffix_of_suffix_append {c : Char} {ending rest : List Char} :
    ∀ {piece : List Char}, c ∉ piece → c :: ending <:+ piece ++ rest → c :: ending <:+ rest
  | [], _, h => h
  | d :: piece, hc, h => by
    rw [List.mem_cons, not_or] at hc
    obtain ⟨hne, hpiece⟩ := hc
    rcases List.suffix_cons_iff.mp h with heq | hlater
    · exact absurd (List.cons.inj heq).1 hne
    · exact suffix_of_suffix_append hpiece hlater

/-- Every ampersand of an escaped text is the first character of an entity. -/
theorem entity_of_ampersand (text : String) {rest : List Char}
    (h : '&' :: rest <:+ (escape text).toList) :
    ∃ entry ∈ entities, entry.2.toList <+: '&' :: rest := by
  -- An entity is an ampersand and a piece with no other one.
  have hentities : ∀ entry ∈ entities, entry.2.toList = '&' :: entry.2.toList.tail ∧
      '&' ∉ entry.2.toList.tail := by decide
  rw [toList_escape] at h
  generalize text.toList = cs at h
  induction cs with
  | nil => exact absurd (List.eq_nil_of_suffix_nil h) (List.cons_ne_nil _ _)
  | cons c cs ih =>
    rw [List.flatMap_cons] at h
    rcases passes_cases c with ⟨entity, hin, hentity⟩ | ⟨hplain, hself⟩
    · obtain ⟨hfirst, htail⟩ := hentities _ hin
      rw [hentity, hfirst, List.cons_append] at h
      rcases List.suffix_cons_iff.mp h with heq | hlater
      · refine ⟨(c, entity), hin, ?_⟩
        rw [heq, ← List.cons_append, ← hfirst]
        exact List.prefix_append _ _
      · exact ih (suffix_of_suffix_append htail hlater)
    · have hne : '&' ≠ c := hplain ('&', "&amp;") (List.mem_cons_self ..)
      rw [hself] at h
      exact ih (suffix_of_suffix_append (fun hin => hne (List.mem_singleton.mp hin)) h)

/-- **Escaping loses nothing and leaves no markup.** In the escaped form of any text there is no
bracket of a tag, and every ampersand begins an entity. Reading the entities back in a single
pass gives the text again, whatever stood in it. So different texts stay different. -/
theorem escape_faithful :
    (∀ text, '<' ∉ (escape text).toList ∧ '>' ∉ (escape text).toList ∧
      (∀ rest, '&' :: rest <:+ (escape text).toList →
        ∃ entity ∈ ["&amp;", "&lt;", "&gt;"], entity.toList <+: '&' :: rest) ∧
      unescape (escape text) = text) ∧
    Function.Injective escape := by
  constructor
  · intro text
    refine ⟨not_mem_escape (.inl rfl) text, not_mem_escape (.inr rfl) text, ?_,
      unescape_escape text⟩
    intro rest h
    obtain ⟨entry, hentry, hbegins⟩ := entity_of_ampersand text h
    exact ⟨entry.2, List.mem_map_of_mem hentry, hbegins⟩
  · intro text other h
    rw [← unescape_escape text, h, unescape_escape]

/-- An escaped text can be escaped once more, and is then read back as what it was. -/
example : escape "a<b&lt;" = "a&lt;b&amp;lt;" ∧ unescape "a&lt;b&amp;lt;" = "a<b&lt;" := by decide

end InputBridge.Drawing
