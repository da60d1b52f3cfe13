import InputBridge.Proofs.Device.AtRest

/-!
# The bits of the buttons

The buttons of a mouse are kept as bits. Each bit is one button (`mouseButtons_inj`), and a
button has an edge if its bit changed (`edges_buttonEdges`). So a visit of a port has at most
one edge of a button, to where the button is after it (`MouseState.edges_hear`).

Edges can be replayed: `replayEdge` sets or clears the bit of the button of an edge. Whatever
the events, replaying leaves each button where its last edge says (`isDown_replay`), and sets no
bit that is of no button (`replay_and_allButtons`). So two ways to the same places give the same
bits (`and_allButtons_congr`).
-/

namespace InputBridge

/-! ## One button -/

namespace MouseState

/-- Is the button with this bit down? -/
def isDown (state : MouseState) (bit : UInt8) : Bool := state.buttons &&& bit != 0

end MouseState

theorem UInt8.xor_and_distrib (a b mask : UInt8) :
    (a ^^^ b) &&& mask = (a &&& mask) ^^^ (b &&& mask) := by
  rw [← UInt8.toBitVec_inj]
  ext i hi
  simp only [UInt8.toBitVec_and, UInt8.toBitVec_xor, BitVec.getElem_and, BitVec.getElem_xor,
    Bool.and_xor_distrib_right]

theorem UInt8.or_and_distrib (a b mask : UInt8) :
    (a ||| b) &&& mask = (a &&& mask) ||| (b &&& mask) := by
  rw [← UInt8.toBitVec_inj]
  ext i hi
  simp only [UInt8.toBitVec_and, UInt8.toBitVec_or, BitVec.getElem_and, BitVec.getElem_or,
    Bool.and_or_distrib_right]

/-- The bit of a button is one bit: masked with it, a set of buttons gives nothing or it. -/
theorem and_buttonBit {bit : UInt8} {button : Button} (h : (bit, button) ∈ mouseButtons) :
    bit ≠ 0 ∧ ∀ buttons, buttons &&& bit = 0 ∨ buttons &&& bit = bit := by
  have hall : ∀ entry ∈ mouseButtons, entry.1 ≠ 0 ∧ ∀ n : Fin 256,
      UInt8.ofFin n &&& entry.1 = 0 ∨ UInt8.ofFin n &&& entry.1 = entry.1 := by decide +kernel
  obtain ⟨hne, hbits⟩ := hall (bit, button) h
  exact ⟨hne, fun buttons => hbits buttons.toFin⟩

/-- No two bits are of the same button. -/
theorem mouseButtons_inj : ∀ entry ∈ mouseButtons, ∀ other ∈ mouseButtons,
    entry.2 = other.2 → entry = other := by decide

/-- The bit of a button is among the changed ones if the button is no longer where it was. -/
theorem xor_and_buttonBit {bit : UInt8} {button : Button} (h : (bit, button) ∈ mouseButtons)
    (before after : UInt8) : (after ^^^ before) &&& bit = 0 ↔
      (after &&& bit != 0) = (before &&& bit != 0) := by
  rw [UInt8.xor_and_distrib, UInt8.xor_eq_zero_iff]
  obtain ⟨hbit, hbits⟩ := and_buttonBit h
  rcases hbits after with ha | ha <;> rcases hbits before with hb | hb <;>
    simp [ha, hb, hbit, hbit.symm]

/-- A button has one edge if it changed, to where it is now, and else none. -/
theorem edges_buttonEdges {bit : UInt8} {button : Button} (h : (bit, button) ∈ mouseButtons)
    (before after : UInt8) :
    button.edges (buttonEdges (after ^^^ before) after) =
      if (after &&& bit != 0) = (before &&& bit != 0) then [] else [after &&& bit != 0] := by
  have hchanged := xor_and_buttonBit h before after
  unfold Button.edges buttonEdges
  -- Only the entry of the button itself can give an edge of it.
  rw [List.filterMap_filterMap, filterMap_of_only (by decide) h]
  · dsimp only
    by_cases hsame : (after &&& bit != 0) = (before &&& bit != 0)
    · rw [if_pos hsame, if_pos (hchanged.mpr hsame)]
      rfl
    · rw [if_neg hsame, if_neg fun hnone => hsame (hchanged.mp hnone)]
      simp
  · intro entry hentry hne
    have hother : entry.2 ≠ button := fun heq => hne (mouseButtons_inj entry hentry _ h heq)
    by_cases hnone : (after ^^^ before) &&& entry.1 = 0
    · simp [hnone]
    · simp [hnone, hother]

/-! ## The edges of a visit -/

/-- A visit has one edge of a button if the button changed, to where it is now, and else
none. -/
theorem MouseState.edges_hear {bit : UInt8} {button : Button} (h : (bit, button) ∈ mouseButtons)
    (state : MouseState) (port : Port) (bound : Int32) (heard : Heard) :
    button.edges ((state.hear port bound heard).1.filterMap Remark.event?) =
      if (state.hear port bound heard).2.isDown bit = state.isDown bit then []
      else [(state.hear port bound heard).2.isDown bit] := by
  -- Motion has no edges and moves no button.
  have hmotion : button.edges
        ((state.hearCounters port bound heard.counters).1.filterMap Remark.event?) = [] ∧
      (state.hearCounters port bound heard.counters).2.buttons = state.buttons := by
    cases heard.counters with
    | error cause => exact ⟨rfl, rfl⟩
    | ok word =>
      refine ⟨Button.edges_eq_nil fun pressed hin => ?_, rfl⟩
      exact absurd (not_isEdge_motionRemarks _ _ _ _ hin) (by simp [Event.isEdge])
  unfold hear isDown
  generalize state.hearCounters port bound heard.counters = moved at hmotion
  dsimp only
  rw [List.filterMap_append, Button.edges_append, hmotion.1, List.nil_append, ← hmotion.2]
  cases heard.buttons with
  | error cause => exact (if_pos rfl).symm
  | ok buttons =>
    unfold hearButtons
    dsimp only
    rw [List.filterMap_map]
    show button.edges ((buttonEdges _ _).filterMap some) = _
    rw [List.filterMap_some]
    exact edges_buttonEdges h moved.2.buttons buttons

/-! ## Replaying edges -/

/-- The bits of all buttons. -/
def allButtons : UInt8 := leftBit ||| rightBit ||| middleBit

/-- The buttons after one more event: an edge sets or clears the bit of its button. -/
def replayEdge (buttons : UInt8) : Event → UInt8
  | .button which pressed =>
    match mouseButtons.find? (·.2 = which) with
    | some (bit, _) => if pressed then buttons ||| bit else buttons &&& ~~~bit
    | none => buttons
  | _ => buttons

/-- The bits of two buttons have nothing in common. -/
theorem buttonBits_apart : ∀ entry ∈ mouseButtons, ∀ other ∈ mouseButtons,
    other.1 &&& entry.1 = (if other.2 = entry.2 then entry.1 else 0) ∧
      ~~~other.1 &&& entry.1 = if other.2 = entry.2 then 0 else entry.1 := by decide

theorem buttonBit_and_allButtons : ∀ entry ∈ mouseButtons, entry.1 &&& allButtons = entry.1 := by
  decide

section Replay

variable {bit : UInt8} {button : Button}

/-- An edge is of a button of the mouse, and moves its bit, or it is of no such button. -/
theorem replayEdge_cases (buttons : UInt8) (which : Button) (pressed : Bool) :
    (∃ entry ∈ mouseButtons, entry.2 = which ∧ replayEdge buttons (.button which pressed) =
      if pressed then buttons ||| entry.1 else buttons &&& ~~~entry.1) ∨
    (∀ entry ∈ mouseButtons, entry.2 ≠ which) ∧
      replayEdge buttons (.button which pressed) = buttons := by
  unfold replayEdge
  dsimp only
  cases hfind : mouseButtons.find? (·.2 = which) with
  | none =>
    refine Or.inr ⟨fun entry hin heq => ?_, rfl⟩
    exact List.find?_eq_none.mp hfind entry hin (decide_eq_true heq)
  | some entry =>
    have hwhich : entry.2 = which := by simpa using List.find?_some hfind
    exact Or.inl ⟨entry, List.mem_of_find?_eq_some hfind, hwhich, rfl⟩

/-- Setting a bit presses its button, and no other. -/
theorem isDown_set (h : (bit, button) ∈ mouseButtons) {other : UInt8 × Button}
    (hother : other ∈ mouseButtons) (buttons : UInt8) :
    ((buttons ||| other.1) &&& bit != 0) =
      if other.2 = button then true else buttons &&& bit != 0 := by
  obtain ⟨hbit, hbits⟩ := and_buttonBit h
  rw [UInt8.or_and_distrib, (buttonBits_apart _ h _ hother).1]
  by_cases hsame : other.2 = button
  · rw [if_pos hsame, if_pos hsame]
    rcases hbits buttons with hup | hdown
    · simp [hup, hbit]
    · simp [hdown, hbit]
  · rw [if_neg hsame, if_neg hsame, UInt8.or_zero]

/-- Clearing a bit releases its button, and no other. -/
theorem isDown_clear (h : (bit, button) ∈ mouseButtons) {other : UInt8 × Button}
    (hother : other ∈ mouseButtons) (buttons : UInt8) :
    ((buttons &&& ~~~other.1) &&& bit != 0) =
      if other.2 = button then false else buttons &&& bit != 0 := by
  rw [UInt8.and_assoc, (buttonBits_apart _ h _ hother).2]
  by_cases hsame : other.2 = button
  · rw [if_pos hsame, if_pos hsame, UInt8.and_zero]
    rfl
  · rw [if_neg hsame, if_neg hsame]

/-- After an edge of a button it is where the edge says; any other event leaves it alone. -/
theorem isDown_replayEdge (h : (bit, button) ∈ mouseButtons) (buttons : UInt8) (event : Event) :
    (replayEdge buttons event &&& bit != 0) =
      (button.edges [event]).getLastD (buttons &&& bit != 0) := by
  cases event with
  | key | relative | absolute | sync => rfl
  | button which pressed =>
    have hedges : button.edges [.button which pressed] =
        if which = button then [pressed] else [] := by
      unfold Button.edges
      by_cases hwhich : which = button <;> simp [hwhich]
    rw [hedges]
    rcases replayEdge_cases buttons which pressed with ⟨other, hother, rfl, hmask⟩ | ⟨hnone, hmask⟩
    · rw [hmask]
      cases pressed with
      | true =>
        rw [if_pos rfl, isDown_set h hother]
        split <;> rfl
      | false =>
        rw [if_neg Bool.false_ne_true, isDown_clear h hother]
        split <;> rfl
    · have hne : which ≠ button := fun heq => hnone (bit, button) h heq.symm
      rw [hmask, if_neg hne]
      rfl

/-- Replaying leaves a button where its last edge says. -/
theorem isDown_replay (h : (bit, button) ∈ mouseButtons) :
    ∀ (events : List Event) (buttons : UInt8),
      (events.foldl replayEdge buttons &&& bit != 0) =
        (button.edges events).getLastD (buttons &&& bit != 0)
  | [], _ => rfl
  | event :: rest, buttons => by
    have hsplit : button.edges (event :: rest) = button.edges [event] ++ button.edges rest :=
      button.edges_append [event] rest
    rw [List.foldl_cons, isDown_replay h rest, isDown_replayEdge h, hsplit]
    simp only [List.getLastD_eq_getLast?, List.getLast?_append]
    cases (button.edges rest).getLast? <;> rfl

theorem replayEdge_and_allButtons {buttons : UInt8} (h : buttons &&& allButtons = buttons)
    (event : Event) : replayEdge buttons event &&& allButtons = replayEdge buttons event := by
  cases event with
  | key | relative | absolute | sync => exact h
  | button which pressed =>
    rcases replayEdge_cases buttons which pressed with ⟨entry, hentry, -, hmask⟩ | ⟨-, hmask⟩
    · rw [hmask]
      cases pressed with
      | true =>
        rw [if_pos rfl, UInt8.or_and_distrib, h, buttonBit_and_allButtons entry hentry]
      | false =>
        rw [if_neg Bool.false_ne_true, UInt8.and_assoc, UInt8.and_comm _ allButtons,
          ← UInt8.and_assoc, h]
    · rw [hmask]
      exact h

/-- Replaying sets no bit that is not of a button. -/
theorem replay_and_allButtons : ∀ (events : List Event) {buttons : UInt8},
    buttons &&& allButtons = buttons →
      events.foldl replayEdge buttons &&& allButtons = events.foldl replayEdge buttons
  | [], _, h => h
  | event :: rest, _, h => replay_and_allButtons rest (replayEdge_and_allButtons h event)

theorem and_allButtons (buttons : UInt8) : buttons &&& allButtons =
    (buttons &&& leftBit) ||| (buttons &&& rightBit) ||| (buttons &&& middleBit) := by
  unfold allButtons
  rw [UInt8.and_comm, UInt8.or_and_distrib, UInt8.or_and_distrib, UInt8.and_comm leftBit,
    UInt8.and_comm rightBit, UInt8.and_comm middleBit]

/-- Buttons that are all in the same places are the same bits. -/
theorem and_allButtons_congr {buttons other : UInt8} (h : ∀ bit button,
    (bit, button) ∈ mouseButtons → (buttons &&& bit != 0) = (other &&& bit != 0)) :
    buttons &&& allButtons = other &&& allButtons := by
  have hbits : ∀ bit button, (bit, button) ∈ mouseButtons → buttons &&& bit = other &&& bit := by
    intro bit button hbutton
    have hsame := (xor_and_buttonBit hbutton other buttons).mpr (h bit button hbutton)
    rwa [UInt8.xor_and_distrib, UInt8.xor_eq_zero_iff] at hsame
  rw [and_allButtons, and_allButtons other, hbits leftBit .left (by decide),
    hbits rightBit .right (by decide), hbits middleBit .middle (by decide)]

end Replay

/-- What the lines say are buttons, and no other bit. -/
theorem PortLines.pressed_and_allButtons (lines : PortLines) (fire : UInt8) (pot : UInt16) :
    lines.pressed fire pot &&& allButtons = lines.pressed fire pot := by
  unfold PortLines.pressed
  split <;> split <;> split <;> decide

end InputBridge
