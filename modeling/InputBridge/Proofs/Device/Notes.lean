import InputBridge.Proofs.Device.PenStates
import InputBridge.Proofs.Device.Reports
import InputBridge.Proofs.Event.Delivery
import InputBridge.Proofs.Matrix.Positions

/-!
# What the devices note

Besides events a poll makes notes, which are about what the device senses: none of them is
tallied. The keyboard makes none, since every position of its matrix has a key
(`Keyboard.notes_poll`). The mouse notes reports that were bounded. The pen notes when it
comes into sight and when it is lost: a poll notes that if what it found is not what the one
before it found, and nothing else (`Lightpen.notes_poll`).
-/

namespace InputBridge

/-- The note of a remark, if it is one. -/
def Remark.note? : Remark → Option Note
  | .event _ => none
  | .note made => some made

/-- The notes that a poll makes. -/
def Polled.notes {β δ ρ : Type} (polled : Polled β δ ρ) : List Note :=
  polled.left.remarks.filterMap Remark.note?

/-- Whether the pen is seen from here on, if the note is about that. -/
def Note.sighted? : Note → Option Bool
  | .penDetected .. => some true
  | .penLost => some false
  | _ => none

variable {β : Type} [RegisterBus β]

/-- Every change is at a position of the matrix, which has a key. -/
theorem Keyboard.note?_changeRemarks (keyboard : Keyboard) (snapshot : Snapshot) :
    ∀ remark ∈ keyboard.changeRemarks snapshot, remark.note? = none := by
  intro remark hremark
  obtain ⟨change, hchange, rfl⟩ := List.mem_map.mp hremark
  obtain ⟨position, hposition, hsome⟩ := List.mem_filterMap.mp hchange
  dsimp only at hsome
  split at hsome
  · cases hsome
  · obtain ⟨key, hkey⟩ := keyboard.keymap.exists_get?_of_mem_all hposition
    rw [← Option.some.inj hsome]
    unfold changeRemark
    dsimp only
    rw [hkey]
    rfl

/-- The keyboard notes nothing. -/
theorem Keyboard.notes_poll (keyboard : Keyboard) (bus : β) :
    (pollOnce Keyboard.poll keyboard bus).notes = [] := by
  have hallowed : keyboard.poll.Within { remarks := fun remark => remark.note? = none }
      fun _ => True := keyboard.poll_remarks keyboard.note?_changeRemarks
  exact List.filterMap_eq_nil_iff.mpr (hallowed.remarks_run bus)

/-- The mouse notes reports that were bounded. -/
theorem Mouse.notes_poll (mouse : Mouse) (bus : β) :
    ∀ note ∈ (pollOnce Mouse.poll mouse bus).notes, note.tally? = none ∧ note.sighted? = none := by
  have hmotion : ∀ port report pending, ∀ remark ∈ motionRemarks port report pending,
      ∀ note ∈ remark.note?, note.tally? = none ∧ note.sighted? = none := by
    intro port report pending remark hremark note hnote
    unfold motionRemarks at hremark
    rcases List.mem_append.mp hremark with hmoves | hbounded
    · -- A move is an event, not a note.
      rcases List.mem_append.mp hmoves with hx | hy
      · split at hx
        · cases hx
        · rw [List.mem_singleton.mp hx] at hnote
          cases hnote
      · split at hy
        · cases hy
        · rw [List.mem_singleton.mp hy] at hnote
          cases hnote
    · split at hbounded
      · cases hbounded
      · rw [List.mem_singleton.mp hbounded] at hnote
        rw [← Option.some.inj hnote]
        exact ⟨rfl, rfl⟩
  have hedges : ∀ changed pressed, ∀ event ∈ buttonEdges changed pressed,
      ∀ note ∈ (Remark.event event).note?, note.tally? = none ∧ note.sighted? = none := by
    intro changed pressed event _ note hnote
    cases hnote
  have hallowed : mouse.poll.Within { remarks := fun remark => ∀ note ∈ remark.note?,
      note.tally? = none ∧ note.sighted? = none } fun _ => True :=
    Mouse.poll_remarks hmotion hedges mouse
  intro note hnote
  obtain ⟨remark, hremark, hsome⟩ := List.mem_filterMap.mp hnote
  exact hallowed.remarks_run bus remark hremark note hsome

/-- What the pen notes of what it found: that it was not seen before, or that it was. -/
theorem PenState.note?_remarks (state : PenState) (seen : Option PenSighting) :
    (∀ note ∈ (state.remarks seen).filterMap Remark.note?, note.tally? = none) ∧
      ((state.remarks seen).filterMap Remark.note?).filterMap Note.sighted? =
        if (state.next seen).detected = state.detected then []
        else [(state.next seen).detected] := by
  cases seen with
  | none =>
    unfold remarks next
    dsimp only
    by_cases hdetected : state.detected = true
    · have htip : (if state.button then tipEdges false else []).filterMap Remark.note? = [] := by
        split <;> rfl
      rw [if_pos hdetected, if_pos hdetected, List.filterMap_append, htip, hdetected]
      exact ⟨List.forall_mem_singleton.mpr rfl, rfl⟩
    · rw [if_neg hdetected, if_neg hdetected, if_pos rfl]
      exact ⟨fun _ hin => absurd hin List.not_mem_nil, rfl⟩
  | some sighting =>
    obtain ⟨beam, tipDown⟩ := sighting
    have hafter : (state.next (some ⟨beam, tipDown⟩)).detected = true := rfl
    have hplace : (state.remarks (some ⟨beam, tipDown⟩)).filterMap Remark.note? =
        if state.detected then [] else [.penDetected beam.x beam.y] := by
      unfold remarks
      rw [List.filterMap_append, List.filterMap_append]
      by_cases hdetected : state.detected = true
      · rw [if_pos hdetected, if_pos hdetected]
        split <;> rfl
      · rw [if_neg hdetected, if_neg hdetected]
        split <;> rfl
    rw [hplace, hafter]
    cases state.detected with
    | true => exact ⟨fun _ hin => absurd hin List.not_mem_nil, rfl⟩
    | false => exact ⟨List.forall_mem_singleton.mpr rfl, rfl⟩

/-- The pen notes whether it is seen, each time that changes. -/
theorem Lightpen.notes_poll (pen : Lightpen) (bus : β) :
    let polled := pollOnce Lightpen.poll pen bus
    (∀ note ∈ polled.notes, note.tally? = none) ∧
      polled.notes.filterMap Note.sighted? =
        if polled.after.state.detected = pen.state.detected then []
        else [polled.after.state.detected] := by
  intro polled
  rcases pen.poll_cases bus with ⟨_, cause, -, hvalue, hremarks⟩ | ⟨_, -, -, hvalue, hremarks⟩ |
    ⟨_, _, _, _, -, -, hvalue, hremarks⟩
  · have hnotes : polled.notes = [] := congrArg (List.filterMap Remark.note?) hremarks
    have hafter : polled.after = pen := congrArg Prod.snd hvalue
    rw [hnotes, hafter, if_pos rfl]
    exact ⟨fun _ hin => absurd hin List.not_mem_nil, rfl⟩
  · have hnotes : polled.notes = (pen.state.remarks none).filterMap Remark.note? :=
      congrArg (List.filterMap Remark.note?) hremarks
    have hafter : polled.after.state = pen.state.next none :=
      congrArg (fun value => value.2.state) hvalue
    rw [hnotes, hafter]
    exact pen.state.note?_remarks none
  · have hnotes := congrArg (List.filterMap Remark.note?) hremarks
    have hafter := congrArg (fun value => value.2.state) hvalue
    unfold Polled.notes Polled.after
    rw [hnotes, hafter]
    exact pen.state.note?_remarks _

end InputBridge
