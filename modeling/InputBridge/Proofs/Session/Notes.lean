import InputBridge.Proofs.Device.Notes
import InputBridge.Proofs.Session.SetUp
import InputBridge.Proofs.Session.Tick

/-!
# What a session notes

Of the notes that are tallied, a start makes one for each device that it takes out of use
(`Session.notes_start`), and a scan signals one for each device whose poll failed
(`Session.notes_signals`). That the pen is seen or lost is noted by its poll and by nothing
else.
-/

namespace InputBridge

/-- One entry for each device of some kind, in scan order. -/
theorem Device.map_filter_all {α : Type} (which : Device → Bool) (f : Device → α) :
    (Device.all.filter which).map f =
      (if which .keyboard then [f .keyboard] else []) ++
        ((if which .mouse then [f .mouse] else []) ++
          if which .lightpen then [f .lightpen] else []) := by
  unfold Device.all
  rw [List.filter_cons, List.filter_cons, List.filter_cons, List.filter_nil]
  cases which .keyboard <;> cases which .mouse <;> cases which .lightpen <;> rfl

/-! ## Starts -/

section SetUp

variable {β δ : Type} [RegisterBus β]

/-- A set-up that makes no notes of its own is noted if it fails; then the device is dropped. -/
theorem Devices.notes_keepIfSetUp {setUp : δ → Attempt Note Unit} {reads : Address → Width → Prop}
    (hsilent : ∀ state, (setUp state).Within { reads, remarks := fun _ => False } fun _ => True)
    (device : Device) (state? : Option δ) (bus : β) :
    let ran := (keepIfSetUp device setUp state?).run bus
    ran.remarks.filterMap Note.tally? =
        (if state?.isSome && !ran.value.isSome then [.disabled device] else []) ∧
      ran.remarks.filterMap Note.sighted? = [] := by
  cases state? with
  | none => exact ⟨rfl, rfl⟩
  | some state =>
    have hnone := (hsilent state).remarks_eq_nil (fun _ h => h) bus
    dsimp only
    unfold keepIfSetUp
    rw [Program.run_bind, hnone]
    cases ((setUp state).run.run bus).value with
    | ok _ => exact ⟨rfl, rfl⟩
    | error cause => exact ⟨rfl, rfl⟩

theorem Mouse.setUp_silent (mouse : Mouse) :
    (mouse.setUp (ω := Note)).Within { reads := fun _ _ => True, remarks := fun _ => False }
      fun _ => True :=
  Attempt.within_bind (Attempt.within_readByte trivial) fun _ _ =>
    Attempt.within_writeByte trivial

/-- Of its latch the pen notes what became of it, and that is not tallied. -/
theorem Lightpen.notes_setUp (pen : Lightpen) (bus : β) :
    (pen.setUp.run bus).remarks.filterMap Note.tally? = [] ∧
      (pen.setUp.run bus).remarks.filterMap Note.sighted? = [] := by
  have hnotes : ∀ note ∈ (pen.setUp.run bus).remarks,
      note.tally? = none ∧ note.sighted? = none := by
    intro note hin
    rcases pen.setUp_within.remarks_run bus note hin with rfl | ⟨cause, rfl⟩ <;> exact ⟨rfl, rfl⟩
  exact ⟨List.filterMap_eq_nil_iff.mpr fun note hin => (hnotes note hin).1,
    List.filterMap_eq_nil_iff.mpr fun note hin => (hnotes note hin).2⟩

namespace Devices

/-- Was the device in use before, and is it not after? -/
def lost (before after : Devices) (device : Device) : Bool :=
  before.inUse.get device && !after.inUse.get device

/-- Setting up notes which devices were lost in it. -/
theorem notes_setUp (devices : Devices) (bus : β) :
    let ran := devices.setUp.run bus
    ran.remarks.filterMap Note.tally? = (Device.all.filter (devices.lost ran.value)).map .disabled ∧
      ran.remarks.filterMap Note.sighted? = [] := by
  intro ran
  obtain ⟨hkeyboard, hkeyboardSeen⟩ :=
    notes_keepIfSetUp Keyboard.setUp_within .keyboard devices.keyboard bus
  obtain ⟨hmouse, hmouseSeen⟩ :=
    notes_keepIfSetUp Mouse.setUp_silent .mouse devices.mouse (devices.keyboardLeaves bus)
  obtain ⟨hvalue, hremarks⟩ := devices.setUp_parts bus
  have hpen : ∀ met : β,
      ((devices.lightpen.map fun pen => (pen.setUp.run met).remarks).getD []).filterMap
          Note.tally? = [] ∧
        ((devices.lightpen.map fun pen => (pen.setUp.run met).remarks).getD []).filterMap
          Note.sighted? = [] := by
    intro met
    cases devices.lightpen with
    | none => exact ⟨rfl, rfl⟩
    | some pen => exact pen.notes_setUp met
  have hkept : devices.lost ran.value .lightpen = false := by
    rw [hvalue]
    exact Bool.and_not_self _
  rw [hremarks, Device.map_filter_all, List.filterMap_append, List.filterMap_append,
    List.filterMap_append, List.filterMap_append, hkeyboard, hkeyboardSeen, hmouse, hmouseSeen,
    (hpen _).1, (hpen _).2, hkept, hvalue]
  exact ⟨rfl, rfl⟩

end Devices

end SetUp

namespace Session

variable {β σ : Type} [RegisterBus β] (session : Session β σ)

/-- A start notes which devices are out of use after it. -/
theorem notes_start :
    session.start.notes.filterMap Note.tally? =
        (Device.all.filter (session.devices.lost session.start.value.2.devices)).map .disabled ∧
      session.start.notes.filterMap Note.sighted? = [] := by
  have hsame :
      (Device.all.filter (session.devices.lost session.devices)).map Tally.disabled = [] := by
    rw [List.filter_eq_nil_iff.mpr fun device _ => ?_]
    · rfl
    · unfold Devices.lost
      rw [Bool.and_not_self]
      exact Bool.false_ne_true
  unfold start
  split
  next => exact ⟨hsame.symm, rfl⟩
  next =>
    split
    next => exact ⟨hsame.symm, rfl⟩
    next =>
      split
      next => exact ⟨hsame.symm, rfl⟩
      next bus _ =>
        obtain ⟨htallies, hseen⟩ := session.devices.notes_setUp bus
        dsimp only
        split
        next => exact ⟨htallies, hseen⟩
        next =>
          rw [List.filterMap_append, List.filterMap_append, htallies, hseen]
          exact ⟨List.append_nil _, rfl⟩

end Session

/-! ## Ticks -/

section Part

variable {β δ ρ : Type} [RegisterBus β]

theorem note?_signal (device : Device) (remarks : List Remark) :
    (remarks.map (Remark.signal device)).filterMap Signal.note? =
      remarks.filterMap Remark.note? := by
  rw [List.filterMap_map]
  congr 1
  funext remark
  cases remark <;> rfl

/-- The notes of a part of the scan: those of the poll, and that it failed if it did. -/
theorem notes_scanDevice (device : Device) (poll : δ → Program Remark (Except BusError ρ × δ))
    (state? : Option δ) (bus : β) :
    ∃ failure : List Note,
      ((Devices.scanDevice device poll state?).run bus).remarks.filterMap Signal.note? =
          ((pollInUse poll state? bus).map Polled.notes).getD [] ++ failure ∧
        failure.filterMap Note.tally? =
          (if (pollInUse poll state? bus).any Polled.failed then [.failed device] else []) ∧
        failure.filterMap Note.sighted? = [] := by
  cases state? with
  | none => exact ⟨[], rfl, rfl, rfl⟩
  | some state =>
    have hgroup : (((poll state).grouped device).run bus).remarks.filterMap Signal.note? =
        (pollOnce poll state bus).notes := by
      rw [Program.run_grouped]
      dsimp only
      rw [List.filterMap_append, note?_signal]
      split <;> exact List.append_nil _
    have hvalue : (((poll state).grouped device).run bus).value =
        (pollOnce poll state bus).left.value := by rw [Program.run_grouped]; rfl
    have hpart : ∃ failure : List Note,
        ((Devices.scanDevice device poll (some state)).run bus).remarks.filterMap Signal.note? =
            (pollOnce poll state bus).notes ++ failure ∧
          failure.filterMap Note.tally? =
            (if (pollOnce poll state bus).failed then [.failed device] else []) ∧
          failure.filterMap Note.sighted? = [] := by
      unfold Devices.scanDevice Polled.failed Polled.answer
      rw [Program.run_bind, List.filterMap_append, hgroup, hvalue]
      generalize (pollOnce poll state bus).left.value = value
      obtain ⟨answer, after⟩ := value
      cases answer with
      | ok result => exact ⟨[], rfl, rfl, rfl⟩
      | error cause => exact ⟨[.scanFailed device cause], rfl, rfl, rfl⟩
    exact hpart

/-- What holds of the notes of every poll of a device holds of its notes in a scan, whether
it is in use or not. -/
theorem forall_notes_pollInUse {poll : δ → Program Remark (Except BusError ρ × δ)}
    {kept : Note → Prop}
    (h : ∀ state (bus : β), ∀ note ∈ (pollOnce poll state bus).notes, kept note)
    (state? : Option δ) (bus : β) :
    ∀ note ∈ ((pollInUse poll state? bus).map Polled.notes).getD [], kept note := by
  cases state? with
  | none => exact fun _ hin => absurd hin List.not_mem_nil
  | some state => exact h state bus

end Part

namespace Session

variable {β σ : Type} [RegisterBus β] (session : Session β σ)

/-- What the pen notes in the next tick. -/
def penNotes : List Note := (session.lightpenPoll.map Polled.notes).getD []

/-- A scan signals which polls failed, and what the pen notes of being seen. -/
theorem notes_signals :
    (session.signals.filterMap Signal.note?).filterMap Note.tally? =
        (Device.all.filter session.pollFails).map .failed ∧
      (session.signals.filterMap Signal.note?).filterMap Note.sighted? =
        session.penNotes.filterMap Note.sighted? := by
  obtain ⟨keyboardFails, hkeyboard, hkeyboardTally, hkeyboardSeen⟩ :=
    notes_scanDevice .keyboard Keyboard.poll session.devices.keyboard session.bus
  obtain ⟨mouseFails, hmouse, hmouseTally, hmouseSeen⟩ :=
    notes_scanDevice .mouse Mouse.poll session.devices.mouse
      (busAfter session.bus session.keyboardPoll)
  obtain ⟨penFails, hpen, hpenTally, hpenSeen⟩ :=
    notes_scanDevice .lightpen Lightpen.poll session.devices.lightpen
      (busAfter (busAfter session.bus session.keyboardPoll) session.mousePoll)
  have hkeyboardNotes : ∀ note ∈ (session.keyboardPoll.map Polled.notes).getD [],
      note.tally? = none ∧ note.sighted? = none :=
    forall_notes_pollInUse (fun keyboard bus note hin => by
      rw [keyboard.notes_poll bus] at hin
      cases hin) _ _
  have hmouseNotes : ∀ note ∈ (session.mousePoll.map Polled.notes).getD [],
      note.tally? = none ∧ note.sighted? = none := forall_notes_pollInUse Mouse.notes_poll _ _
  have hpenNotes : ∀ note ∈ session.penNotes, note.tally? = none :=
    forall_notes_pollInUse (fun pen bus => (pen.notes_poll bus).1) _ _
  have hsignals : session.signals.filterMap Signal.note? =
      ((session.keyboardPoll.map Polled.notes).getD [] ++ keyboardFails) ++
        (((session.mousePoll.map Polled.notes).getD [] ++ mouseFails) ++
          (session.penNotes ++ penFails)) := by
    rw [session.scan_parts.2, List.filterMap_append, List.filterMap_append, hkeyboard, hmouse, hpen]
    rfl
  rw [hsignals, Device.map_filter_all]
  constructor
  · simp only [List.filterMap_append, hkeyboardTally, hmouseTally, hpenTally]
    rw [List.filterMap_eq_nil_iff.mpr fun note hin => (hkeyboardNotes note hin).1,
      List.filterMap_eq_nil_iff.mpr fun note hin => (hmouseNotes note hin).1,
      List.filterMap_eq_nil_iff.mpr hpenNotes]
    rfl
  · simp only [List.filterMap_append, hkeyboardSeen, hmouseSeen, hpenSeen]
    rw [List.filterMap_eq_nil_iff.mpr fun note hin => (hkeyboardNotes note hin).2,
      List.filterMap_eq_nil_iff.mpr fun note hin => (hmouseNotes note hin).2]
    exact List.append_nil _

end Session

end InputBridge
