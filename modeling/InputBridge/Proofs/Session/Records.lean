import InputBridge.Proofs.Session.Accounts
import InputBridge.Proofs.Session.BringUp
import InputBridge.Proofs.Session.Notes
import Mathlib.Data.List.Count

/-!
# The records of a session

The log of a session and its counters are kept in different places, and tell the same story.
What a step notes is what its counters and the devices in use changed by (`Recorded`), and
that adds up over a run; what it notes of the pen follows the pen (`Sighted`). A record
shows which sort of note it is of (`Note.shown_record`), so the same can be counted on the
records (`records_match_counters`).
-/

namespace InputBridge

/-! ## Records -/

namespace LogRecord

/-- Has the record this level and this message? -/
def is (record : LogRecord) (level : LogLevel) (message : String) : Bool :=
  record.level = level && record.message = message

/-- Does the record name this device? -/
def names (record : LogRecord) (device : Device) : Bool :=
  record.fields.contains ("device", device.name)

/-- Whether the pen is seen from here on, if the record is about that. -/
def sighted? (record : LogRecord) : Option Bool :=
  if record.is .debug "lightpen detected" then some true
  else if record.is .debug "lightpen lost" then some false
  else none

end LogRecord

/-- Is this the record of a note with this tally? -/
def Tally.shown (record : LogRecord) : Tally → Bool
  | .delivered => record.is .debug "event"
  | .dropped => record.is .warn "dropped input event"
  | .unmapped => record.is .warn "matrix position has no key mapping"
  | .disabled device => record.is .warn "device disabled" && record.names device
  | .failed device => record.is .warn "scan failed, retrying next tick" && record.names device

theorem Device.name_inj {device other : Device} : device.name = other.name ↔ device = other := by
  cases device <;> cases other <;> simp [name]

/-- What a log sink makes of an event is not taken for any of these. -/
theorem Tally.shown_eventRecord (tally : Tally) (taken : Event) :
    tally.shown (Note.eventRecord taken) = false := by
  cases taken <;> cases tally <;> simp [shown, LogRecord.is, Note.eventRecord]

/-- Level, message and device tell which notes a record may be of. -/
theorem Note.shown_record (note : Note) (tally : Tally) :
    tally.shown note.record = decide (note.tally? = some tally) := by
  cases note with
  | event taken => exact tally.shown_eventRecord taken
  | deviceDisabled device cause =>
    cases tally <;> simp [Tally.shown, LogRecord.is, LogRecord.names, record, tally?,
      Device.name_inj, eq_comm]
  | scanFailed device cause =>
    cases tally <;> simp [Tally.shown, LogRecord.is, LogRecord.names, record, tally?,
      Device.name_inj, eq_comm]
  | _ => cases tally <;> simp [Tally.shown, LogRecord.is, record, tally?]

theorem Note.sighted?_record (note : Note) : note.record.sighted? = note.sighted? := by
  cases note with
  | event taken =>
    cases taken <;> simp [LogRecord.sighted?, LogRecord.is, record, eventRecord, sighted?]
  | _ => simp [LogRecord.sighted?, LogRecord.is, record, sighted?]

theorem countP_shown (tally : Tally) : ∀ notes : List Note,
    (notes.map Note.record).countP (Tally.shown · tally) = tallied notes tally
  | [] => rfl
  | note :: rest => by
    rw [List.map_cons, List.countP_cons, countP_shown tally rest, tallied_cons, note.shown_record]
    simp only [decide_eq_true_eq]

/-! ## Tallies by device -/

theorem Device.count_all_filter (which : Device → Bool) (device : Device) :
    (Device.all.filter which).count device = (which device).toNat := by
  cases hwhich : which device with
  | false =>
    have hnot : device ∉ Device.all.filter which := by
      intro hin
      rw [List.of_mem_filter hin] at hwhich
      cases hwhich
    exact List.count_eq_zero.mpr hnot
  | true =>
    rw [List.count_filter hwhich]
    cases device <;> rfl

/-- Notes that tell one thing of some devices tell it once of each of them. -/
theorem tallied_each {notes : List Note} {which : Device → Bool} {tell : Device → Tally}
    (hinj : Function.Injective tell)
    (h : notes.filterMap Note.tally? = (Device.all.filter which).map tell) (device : Device) :
    tallied notes (tell device) = (which device).toNat := by
  unfold tallied
  rw [h, List.count_map_of_injective _ tell hinj, Device.count_all_filter]

/-- And they tell nothing else. -/
theorem tallied_eq_zero {notes : List Note} {which : Device → Bool} {tell : Device → Tally}
    (h : notes.filterMap Note.tally? = (Device.all.filter which).map tell) {tally : Tally}
    (hne : ∀ device, tell device ≠ tally) : tallied notes tally = 0 := by
  unfold tallied
  rw [h, List.count_eq_zero]
  intro hin
  obtain ⟨device, -, htold⟩ := List.mem_map.mp hin
  exact hne device htold

namespace Session

variable {β σ : Type} [RegisterBus β]

/-! ## Counters -/

/-- What these notes tell is what became of the counters and of the devices in use. -/
structure Recorded (before after : Session β σ) (notes : List Note) : Prop where
  delivered : after.stats.delivered = before.stats.delivered + tallied notes .delivered
  dropped : after.stats.dropped = before.stats.dropped + tallied notes .dropped
  failures : ∀ device, after.stats.failures.get device =
    before.stats.failures.get device + tallied notes (.failed device)
  inUse : ∀ device, (before.devices.inUse.get device).toNat =
    (after.devices.inUse.get device).toNat + tallied notes (.disabled device)
  unmapped : tallied notes .unmapped = 0

omit [RegisterBus β] in
theorem Recorded.trans {first second third : Session β σ} {earlier later : List Note}
    (h : Recorded first second earlier) (h' : Recorded second third later) :
    Recorded first third (earlier ++ later) := by
  constructor
  case delivered => rw [h'.delivered, h.delivered, tallied_append, Nat.add_assoc]
  case dropped => rw [h'.dropped, h.dropped, tallied_append, Nat.add_assoc]
  case failures =>
    intro device
    rw [h'.failures, h.failures, tallied_append, Nat.add_assoc]
  case inUse =>
    intro device
    rw [h.inUse, h'.inUse, tallied_append]
    omega
  case unmapped => rw [tallied_append, h.unmapped, h'.unmapped]

omit [RegisterBus β] in
theorem recorded_quiet {before after : Session β σ} (hstats : after.stats = before.stats)
    (hinUse : after.devices.inUse = before.devices.inUse) : Recorded before after [] where
  delivered := by rw [hstats]; rfl
  dropped := by rw [hstats]; rfl
  failures _ := by rw [hstats]; rfl
  inUse _ := by rw [hinUse]; rfl
  unmapped := rfl

variable [EventSink σ]

/-- A start tells which devices it took out of use. -/
theorem recorded_start (session : Session β σ) :
    Recorded session session.start.value.2 session.start.notes := by
  obtain ⟨htallies, -⟩ := session.notes_start
  obtain ⟨-, hstats⟩ := session.start_rest
  have hnone : ∀ tally, (∀ device, .disabled device ≠ tally) →
      tallied session.start.notes tally = 0 := fun _ => tallied_eq_zero htallies
  constructor
  case delivered => rw [hstats, hnone .delivered fun _ => nofun]; rfl
  case dropped => rw [hstats, hnone .dropped fun _ => nofun]; rfl
  case failures =>
    intro device
    rw [hstats, hnone (.failed device) fun _ => nofun]
    rfl
  case inUse =>
    intro device
    have hinj : Function.Injective Tally.disabled := fun _ _ => Tally.disabled.inj
    have hkept : session.start.value.2.devices.inUse.get device = true →
        session.devices.inUse.get device = true := inUse_step session .start device
    rw [tallied_each hinj htallies]
    unfold Devices.lost
    generalize session.devices.inUse.get device = before at hkept ⊢
    generalize session.start.value.2.devices.inUse.get device = after at hkept ⊢
    cases before <;> cases after <;> simp at hkept ⊢
  case unmapped => exact hnone .unmapped fun _ => nofun

/-- A tick tells of every event that it counts, and which polls failed. -/
theorem recorded_tick (session : Session β σ) :
    Recorded session session.tick.value session.tick.notes := by
  obtain ⟨htallies, -⟩ := session.notes_signals
  have hnone : ∀ tally, (∀ device, .failed device ≠ tally) →
      tallied (session.signals.filterMap Signal.note?) tally = 0 :=
    fun _ => tallied_eq_zero htallies
  have hnotes : ∀ tally, tallied session.tick.notes tally =
      tallied (session.signals.filterMap Signal.note?) tally +
        (if tally = .delivered then (deliver session.signals session.sink).delivered else 0) +
        (if tally = .dropped then (deliver session.signals session.sink).dropped else 0) :=
    fun tally => tallied_deliver tally session.signals session.sink
  constructor
  case delivered =>
    rw [hnotes, hnone .delivered fun _ => nofun]
    exact congrArg (session.stats.delivered + ·) (Nat.zero_add _).symm
  case dropped =>
    rw [hnotes, hnone .dropped fun _ => nofun]
    exact congrArg (session.stats.dropped + ·) (Nat.zero_add _).symm
  case failures =>
    intro device
    have hinj : Function.Injective Tally.failed := fun _ _ => Tally.failed.inj
    rw [hnotes, tallied_each hinj htallies]
    show ((session.stats.failures.zipWith _ _).get device) = _
    rw [PerDevice.get_zipWith, scan_failed]
    rfl
  case inUse =>
    intro device
    rw [hnotes, hnone (.disabled device) fun _ => nofun, inUse_tick]
    rfl
  case unmapped => rw [hnotes, hnone .unmapped fun _ => nofun]; rfl

/-- The notes that a step makes. -/
def notesOf (session : Session β σ) : Step β → List Note
  | .start => session.start.notes
  | .tick => session.tick.notes
  | .change _ => []

/-- The notes that steps make, one after the other. -/
def notesOver (session : Session β σ) : List (Step β) → List Note
  | [] => []
  | next :: rest => session.notesOf next ++ (session.step next).2.notesOver rest

theorem recorded_step (session : Session β σ) (next : Step β) :
    Recorded session (session.step next).2 (session.notesOf next) := by
  cases next with
  | start => exact recorded_start session
  | tick => exact recorded_tick session
  | change f => exact recorded_quiet rfl rfl

theorem recorded_steps : ∀ (run : List (Step β)) (session : Session β σ),
    Recorded session (session.steps run).2 (session.notesOver run)
  | [], _ => recorded_quiet rfl rfl
  | next :: rest, session => (recorded_step session next).trans (recorded_steps rest _)

/-! ## Sightings of the pen -/

/-- Whether the pen was seen, as noted so far: seen and lost took turns, and the last note is
where the pen is. -/
structure Sighted (seen : List Bool) (session : Session β σ) : Prop where
  alternates : Alternates seen
  last : ∀ pen ∈ session.devices.lightpen, seen.getLastD false = pen.state.detected

omit [RegisterBus β] [EventSink σ] in
theorem sighted_new (bus : β) (sink : σ) (config : Config) : Sighted [] (new bus sink config) where
  alternates := .nil false
  last pen hpen := by
    rw [Devices.lightpen_of_mem hpen]
    rfl

omit [EventSink σ] in
theorem Sighted.start {seen : List Bool} {session : Session β σ} (h : Sighted seen session) :
    Sighted seen session.start.value.2 where
  alternates := h.alternates
  last := session.among_start.lightpen ▸ h.last

theorem Sighted.tick {seen : List Bool} {session : Session β σ} (h : Sighted seen session) :
    Sighted (seen ++ session.tick.notes.filterMap Note.sighted?) session.tick.value := by
  obtain ⟨-, hseen⟩ := session.notes_signals
  have hnotes : session.tick.notes.filterMap Note.sighted? =
      session.penNotes.filterMap Note.sighted? :=
    (filterMap_deliver (fun _ _ => rfl) (fun _ _ _ => rfl) session.signals session.sink).trans hseen
  have hafter : session.tick.value.devices.lightpen = session.lightpenPoll.map Polled.after :=
    congrArg Devices.lightpen session.tick_parts.1
  rw [hnotes]
  unfold penNotes
  unfold lightpenPoll pollInUse at hafter ⊢
  cases hpen : session.devices.lightpen with
  | none =>
    rw [hpen] at hafter
    refine ⟨(List.append_nil seen).symm ▸ h.alternates, fun pen hin => ?_⟩
    rw [hafter] at hin
    cases hin
  | some pen =>
    rw [hpen] at hafter
    obtain ⟨-, hsightings⟩ := pen.notes_poll
      (busAfter (busAfter session.bus session.keyboardPoll) session.mousePoll)
    obtain ⟨halternates, hlast⟩ := h.alternates.follow (h.last pen hpen) _
    rw [← hsightings] at halternates hlast
    refine ⟨halternates, fun other hin => ?_⟩
    rw [hafter] at hin
    rw [← Option.some.inj hin]
    exact hlast

theorem sighted_steps : ∀ (run : List (Step β)) {seen : List Bool} {session : Session β σ},
    Sighted seen session →
      Sighted (seen ++ (session.notesOver run).filterMap Note.sighted?) (session.steps run).2
  | [], seen, _, h => (List.append_nil seen).symm ▸ h
  | next :: rest, seen, session, h => by
    have hnext : Sighted (seen ++ (session.notesOf next).filterMap Note.sighted?)
        (session.step next).2 := by
      cases next with
      | start =>
        have hnone : session.start.notes.filterMap Note.sighted? = [] := session.notes_start.2
        unfold notesOf
        rw [hnone, List.append_nil]
        exact h.start
      | tick => exact h.tick
      | change f =>
        rw [show (session.notesOf (.change f)).filterMap Note.sighted? = [] from rfl,
          List.append_nil]
        exact ⟨h.alternates, h.last⟩
    have hrest := sighted_steps rest hnext
    rw [List.append_assoc, ← List.filterMap_append] at hrest
    exact hrest

/-! ## The log of a run -/

/-- The records of a run, oldest first. A log sink keeps its own. -/
def recordsOver (session : Session β σ) (run : List (Step β)) : List LogRecord :=
  (session.notesOver run).map Note.record

/-- **Records and counters agree.** A new session is driven by starts, ticks and changes of
its bus. Whatever its bus and its sink do, its log has one record for each event that it
counted as delivered and one warning for each that it counted as dropped; for each device one
warning for each failure that it counted; and one warning for each device that a start took
out of use, which no tick does. The records that the pen is seen and that it is lost take
turns, and no position of the matrix is without a key. -/
theorem records_match_counters (bus : β) (sink : σ) (config : Config) (run : List (Step β)) :
    let session := new bus sink config
    let records := session.recordsOver run
    let after := (session.steps run).2
    records.countP (·.is .debug "event") = after.stats.delivered ∧
      records.countP (·.is .warn "dropped input event") = after.stats.dropped ∧
      (∀ device, records.countP (fun record =>
          record.is .warn "scan failed, retrying next tick" && record.names device) =
        after.stats.failures.get device) ∧
      (∀ device, records.countP (fun record =>
          record.is .warn "device disabled" && record.names device) =
        if session.devices.inUse.get device && !after.devices.inUse.get device then 1 else 0) ∧
      (∀ before : Session β σ, before.tick.value.devices.inUse = before.devices.inUse) ∧
      Alternates (records.filterMap LogRecord.sighted?) ∧
      ∀ record ∈ records, record.is .warn "matrix position has no key mapping" = false := by
  intro session records after
  have hrecorded : Recorded session after (session.notesOver run) := recorded_steps run session
  have hcount : ∀ tally : Tally, records.countP (tally.shown ·) =
      tallied (session.notesOver run) tally := fun tally => countP_shown tally _
  refine ⟨?_, ?_, fun device => ?_, fun device => ?_, inUse_tick, ?_, fun record hin => ?_⟩
  · exact (hcount .delivered).trans (hrecorded.delivered.trans (Nat.zero_add _)).symm
  · exact (hcount .dropped).trans (hrecorded.dropped.trans (Nat.zero_add _)).symm
  · have hzero : session.stats.failures.get device = 0 := by cases device <;> rfl
    have hfailures := hrecorded.failures device
    rw [hzero, Nat.zero_add] at hfailures
    exact (hcount (.failed device)).trans hfailures.symm
  · have hinUse := hrecorded.inUse device
    refine (hcount (.disabled device)).trans ?_
    generalize session.devices.inUse.get device = first at hinUse ⊢
    generalize after.devices.inUse.get device = last at hinUse ⊢
    cases first <;> cases last <;> simp at hinUse ⊢ <;> omega
  · have hsighted : records.filterMap LogRecord.sighted? =
        (session.notesOver run).filterMap Note.sighted? := by
      show ((session.notesOver run).map Note.record).filterMap LogRecord.sighted? = _
      rw [List.filterMap_map]
      exact congrArg (List.filterMap · _) (funext Note.sighted?_record)
    rw [hsighted]
    exact (sighted_steps run (sighted_new bus sink config)).alternates
  · have hnone : records.countP (Tally.unmapped.shown ·) = 0 :=
      (hcount .unmapped).trans hrecorded.unmapped
    exact Bool.eq_false_iff.mpr (List.countP_eq_zero.mp hnone record hin)

end Session

end InputBridge
