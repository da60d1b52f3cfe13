import InputBridge.Event.Basic
import Mathlib.Data.List.Chain

/-!
# Edges in turn

A key, a button, or the tip of a pen, is pressed and released in turn. `AlternatesFrom held`
says so of the list of its edges, `true` for a press, and `Alternates` if nothing is held at
first. `AlternatesFrom.concat` is one more edge, and `AlternatesFrom.follow` is how something
that is on or off is followed by noting its changes. `Button.edges` are the edges of a button
among events.
-/

namespace InputBridge

/-- The edges of one button in a list of events, `true` for a press. -/
def Button.edges (button : Button) (events : List Event) : List Bool :=
  events.filterMap fun
    | .button which pressed => if which = button then some pressed else none
    | _ => none

theorem Button.edges_append (button : Button) (earlier later : List Event) :
    button.edges (earlier ++ later) = button.edges earlier ++ button.edges later :=
  List.filterMap_append

theorem Button.edges_flatMap {α : Type} (button : Button) (f : α → List Event) (entries : List α) :
    button.edges (entries.flatMap f) = entries.flatMap fun entry => button.edges (f entry) :=
  List.filterMap_flatMap

/-- A button that is not among the events has no edges there. -/
theorem Button.edges_eq_nil {button : Button} {events : List Event}
    (h : ∀ pressed, .button button pressed ∉ events) : button.edges events = [] := by
  refine List.filterMap_eq_nil_iff.mpr fun event hin => ?_
  cases event with
  | button which pressed =>
    have hne : which ≠ button := fun heq => h pressed (heq ▸ hin)
    exact if_neg hne
  | _ => rfl

/-- Presses and releases take turns, and the first one changes what is held at first. -/
def AlternatesFrom (held : Bool) (edges : List Bool) : Prop := (held :: edges).IsChain (· ≠ ·)

theorem AlternatesFrom.nil (held : Bool) : AlternatesFrom held [] := .singleton held

/-- One more edge, unlike the last one, keeps the turns. -/
theorem AlternatesFrom.concat {held : Bool} {edges : List Bool} (h : AlternatesFrom held edges)
    {edge : Bool} (hne : edge ≠ edges.getLastD held) : AlternatesFrom held (edges ++ [edge]) := by
  unfold AlternatesFrom
  rw [← List.cons_append, List.isChain_append]
  refine ⟨h, .singleton edge, fun last hlast next hnext => ?_⟩
  have hlast' : edges.getLastD held = last := by
    rw [List.getLast?_cons, Option.mem_some_iff] at hlast
    rw [List.getLastD_eq_getLast?]
    exact hlast
  have hnext' : edge = next := by simpa using hnext
  rw [← hlast', ← hnext']
  exact hne.symm

/-- An edge for what is on or off, if it is no longer where the last edge was: then the last
edge is where it is. -/
theorem AlternatesFrom.follow {held : Bool} {edges : List Bool} (h : AlternatesFrom held edges)
    {before : Bool} (hlast : edges.getLastD held = before) (now : Bool) :
    AlternatesFrom held (edges ++ if now = before then [] else [now]) ∧
      (edges ++ if now = before then [] else [now]).getLastD held = now := by
  by_cases hsame : now = before
  · rw [if_pos hsame, List.append_nil]
    exact ⟨h, hlast.trans hsame.symm⟩
  · rw [if_neg hsame]
    exact ⟨h.concat fun heq => hsame (heq.trans hlast), List.getLastD_concat ..⟩

/-- Presses and releases take turns, starting with a press: nothing is held at first. -/
abbrev Alternates (edges : List Bool) : Prop := AlternatesFrom false edges

end InputBridge
