import InputBridge.Device.Lightpen
import InputBridge.Proofs.Device.Polls
import InputBridge.Proofs.Event.Edges

/-!
# The states of the pen

A poll of the pen goes one of three ways, by what its reads are answered: one of them
fails; the first one does not see the pen; or all four succeed and find it. `poll_eq`
writes a poll out along these reads, and `PolledAsRead` says of each way what is
attempted and what becomes of the pen.

A tip is only ever down on a pen that is seen (`Lightpen.Sound`). So losing the pen is the
only way for a tip to come up without being read, and a pen that was lost has nothing
left to release. `PenInv` adds what a run of polls keeps of the edges, and
`lightpen_polls_consistent` reads the contract of whole runs off it.
-/

namespace InputBridge

/-! ## What the reads of a poll found -/

/-- The address and the answer of a read. -/
def Moment.reading? {ω : Type} : Moment ω → Option (Address × Except BusError UInt16)
  | .read address _ answer => some (address, answer)
  | _ => none

section Readings

variable {β : Type} [RegisterBus β]

/-- The reads of a poll of the pen, with their answers, in order. -/
def Polled.readings (polled : Polled β Lightpen Unit) : List (Address × Except BusError UInt16) :=
  (polled.device.poll.history polled.bus).filterMap Moment.reading?

/-- The one read of this poll succeeds, and does not see the pen. -/
def Polled.Misses (map : RegisterMap) (polled : Polled β Lightpen Unit) : Prop :=
  ∃ potgor, potgor &&& potPenSeen = 0 ∧ polled.readings = [(map.potgor, .ok potgor)]

/-- The four reads of this poll succeed, the first one sees the pen, and the others are
answered by these words. -/
def Polled.Finds (map : RegisterMap) (polled : Polled β Lightpen Unit)
    (vhposr vposr joy0dat : UInt16) : Prop :=
  ∃ potgor, potgor &&& potPenSeen ≠ 0 ∧
    polled.readings = [(map.potgor, .ok potgor), (map.vhposr, .ok vhposr),
      (map.vposr, .ok vposr), (map.joy0dat, .ok joy0dat)]

end Readings

/-- The edges of tip and tool that a host is told of. -/
def tipEvents (pressed : Bool) : List Event :=
  [.button .touch pressed, .button .toolPen pressed]

/-- The three moves for a pen at this place. -/
def placeEvents (beam : Beam) (tipDown : Bool) : List Event :=
  [.absolute .x (Int32.ofNat beam.x.toNat), .absolute .y (Int32.ofNat beam.y.toNat),
    .absolute .pressure (if tipDown then 255 else 128)]

/-! ## What is said -/

namespace PenState

variable (state : PenState)

/-- A pen that is found: its place, and the tip if it changed. -/
theorem events_some (beam : Beam) (tipDown : Bool) :
    (state.remarks (some ⟨beam, tipDown⟩)).filterMap Remark.event? =
      placeEvents beam tipDown ++
        if tipDown = state.button then [] else tipEvents tipDown := by
  unfold remarks
  rw [List.filterMap_append, List.filterMap_append]
  have hnote : (if state.detected then []
      else [Remark.note (.penDetected beam.x beam.y)]).filterMap Remark.event? = [] := by
    split <;> rfl
  rw [hnote, List.nil_append]
  congr 1
  split <;> rfl

/-- A pen that is not found: a tip that was down on it comes up. -/
theorem events_none (h : state.button = true → state.phase = .active) :
    (state.remarks none).filterMap Remark.event? =
      if state.button then tipEvents false else [] := by
  simp only [remarks]
  cases hbutton : state.button with
  | false => split <;> rfl
  | true =>
    have hdetected : state.detected = true := by
      unfold detected
      rw [h hbutton]
      rfl
    rw [if_pos hdetected]
    rfl

/-- A pen that is not found keeps its place, and is idle with its tip up. -/
theorem next_none (h : state.button = true → state.phase = .active) :
    state.next none = { state with phase := .idle, button := false } := by
  obtain ⟨phase, x, y, button⟩ := state
  cases phase with
  | active => rfl
  | idle =>
    cases button with
    | false => rfl
    | true => exact absurd (h rfl) (by simp)

/-- A tip is only down on a pen that is seen. -/
theorem button_next (h : state.button = true → state.phase = .active)
    (seen : Option PenSighting) :
    (state.next seen).button = true → (state.next seen).phase = .active := by
  cases seen with
  | some sighting => exact fun _ => rfl
  | none =>
    rw [state.next_none h]
    exact fun hdown => absurd hdown (by simp)

end PenState

/-! ## One poll -/

/-- Reads of one register that go on in the same way. -/
theorem Program.read_congr {ω α : Type} {address : Address} {width : Width}
    {branch branch' : Except BusError UInt16 → Program ω α}
    (herror : ∀ cause, branch (.error cause) = branch' (.error cause))
    (hok : ∀ word, branch (.ok word) = branch' (.ok word)) :
    Program.read address width branch = Program.read address width branch' := by
  congr 1
  funext answer
  cases answer with
  | error cause => exact herror cause
  | ok word => exact hok word

/-- An attempt that opens with the read of a word, and what is made of its answer. -/
theorem Attempt.readWord_bind_run_bind {ω α γ : Type} (address : Address)
    (next : UInt16 → Attempt ω α) (finish : Except BusError α → Program ω γ) :
    (Attempt.readWord address >>= next).run >>= finish =
      .read address .word fun answer =>
        match answer with
        | .ok word => (next word).run >>= finish
        | .error cause => finish (.error cause) := by
  rw [Attempt.run_readWord_bind, Program.read_bind]
  exact Program.read_congr (fun _ => rfl) fun _ => rfl

namespace Lightpen

variable (pen : Lightpen)

/-- The end of a poll: a failure, or what was seen, which is reported and kept. -/
def conclude : Except BusError (Option PenSighting) →
    Program Remark (Except BusError Unit × Lightpen)
  | .error cause => .done (.error cause, pen)
  | .ok seen => Program.remarks (pen.state.remarks seen) >>= fun _ =>
      .done (.ok (), { pen with state := pen.state.next seen })

/-- A poll written out along its reads. -/
theorem poll_eq :
    pen.poll = .read pen.potgor .word fun answer =>
      match answer with
      | .error cause => pen.conclude (.error cause)
      | .ok potgor =>
        if potgor &&& potPenSeen = 0 then pen.conclude (.ok none)
        else .read pen.vhposr .word fun answer =>
          match answer with
          | .error cause => pen.conclude (.error cause)
          | .ok vhposr => .read pen.vposr .word fun answer =>
            match answer with
            | .error cause => pen.conclude (.error cause)
            | .ok vposr => .read pen.joy0dat .word fun answer =>
              match answer with
              | .error cause => pen.conclude (.error cause)
              | .ok joy0dat => pen.conclude
                  (.ok (some ⟨Beam.decode vhposr vposr, joy0dat &&& penTipBit == 0⟩)) := by
  have hpoll : pen.poll = pen.sense.run >>= pen.conclude := rfl
  rw [hpoll]
  unfold sense detect
  simp only [bind_assoc, pure_bind, Attempt.readWord_bind_run_bind]
  refine Program.read_congr (fun _ => rfl) fun potgor => ?_
  dsimp only
  by_cases hseen : potgor &&& potPenSeen = 0
  · have hnot : (potgor &&& potPenSeen != 0) = false := by simp [hseen]
    rw [if_pos hseen, hnot]
    rfl
  · have hsees : (potgor &&& potPenSeen != 0) = true := by simp [hseen]
    rw [if_neg hseen, hsees, if_pos rfl]
    unfold sighting position tip
    simp only [bind_assoc, pure_bind, Attempt.readWord_bind_run_bind]
    -- Three reads are left, and each of them ends the poll if it fails.
    refine Program.read_congr (fun _ => rfl) fun vhposr => ?_
    refine Program.read_congr (fun _ => rfl) fun vposr => ?_
    exact Program.read_congr (fun _ => rfl) fun joy0dat => rfl

section Run

variable {β : Type} [RegisterBus β] (bus : β)

theorem run_conclude_ok (seen : Option PenSighting) :
    (pen.conclude (.ok seen)).run bus =
      ⟨(.ok (), { pen with state := pen.state.next seen }), bus, pen.state.remarks seen⟩ := by
  unfold conclude
  rw [Program.run_bind, Program.run_remarks]
  simp only [Program.run, List.append_nil]

theorem readings_conclude (ended : Except BusError (Option PenSighting)) :
    ((pen.conclude ended).history bus).filterMap Moment.reading? = [] := by
  cases ended with
  | error cause => rfl
  | ok seen =>
    unfold conclude
    rw [Program.history_bind, Program.history_remarks]
    simp [Program.history, Moment.reading?, List.filterMap_eq_nil_iff]

/-- The three ways a poll can go, each with its reads, its answer and what it says. -/
theorem poll_cases :
    (∃ address cause, (address, .error cause) ∈ (pollOnce poll pen bus).readings ∧
      (pollOnce poll pen bus).left.value = (.error cause, pen) ∧
      (pollOnce poll pen bus).left.remarks = []) ∨
    (∃ potgor, potgor &&& potPenSeen = 0 ∧
      (pollOnce poll pen bus).readings = [(pen.potgor, .ok potgor)] ∧
      (pollOnce poll pen bus).left.value = (.ok (), { pen with state := pen.state.next none }) ∧
      (pollOnce poll pen bus).left.remarks = pen.state.remarks none) ∨
    (∃ potgor vhposr vposr joy0dat, potgor &&& potPenSeen ≠ 0 ∧
      (pollOnce poll pen bus).readings = [(pen.potgor, .ok potgor), (pen.vhposr, .ok vhposr),
        (pen.vposr, .ok vposr), (pen.joy0dat, .ok joy0dat)] ∧
      let sighting : PenSighting := ⟨Beam.decode vhposr vposr, joy0dat &&& penTipBit == 0⟩
      (pollOnce poll pen bus).left.value =
          (.ok (), { pen with state := pen.state.next (some sighting) }) ∧
        (pollOnce poll pen bus).left.remarks = pen.state.remarks (some sighting)) := by
  unfold Polled.readings pollOnce
  rw [poll_eq]
  simp only [Program.history, Program.run]
  obtain ⟨answer, bus⟩ := RegisterBus.read pen.potgor .word bus
  cases answer with
  | error cause => exact Or.inl ⟨pen.potgor, cause, List.mem_cons_self .., rfl, rfl⟩
  | ok potgor =>
    dsimp only
    by_cases hseen : potgor &&& potPenSeen = 0
    · refine Or.inr (Or.inl ⟨potgor, hseen, ?_⟩)
      simp only [if_pos hseen, List.filterMap_cons, Moment.reading?, readings_conclude,
        run_conclude_ok]
      exact ⟨trivial, trivial, trivial⟩
    · simp only [if_neg hseen, Program.history, Program.run]
      obtain ⟨answer, bus⟩ := RegisterBus.read pen.vhposr .word bus
      cases answer with
      | error cause => exact Or.inl ⟨pen.vhposr, cause, by simp [Moment.reading?], rfl, rfl⟩
      | ok vhposr =>
        simp only [Program.history, Program.run]
        obtain ⟨answer, bus⟩ := RegisterBus.read pen.vposr .word bus
        cases answer with
        | error cause => exact Or.inl ⟨pen.vposr, cause, by simp [Moment.reading?], rfl, rfl⟩
        | ok vposr =>
          simp only [Program.history, Program.run]
          obtain ⟨answer, bus⟩ := RegisterBus.read pen.joy0dat .word bus
          cases answer with
          | error cause => exact Or.inl ⟨pen.joy0dat, cause, by simp [Moment.reading?], rfl, rfl⟩
          | ok joy0dat =>
            refine Or.inr (Or.inr ⟨potgor, vhposr, vposr, joy0dat, hseen, ?_⟩)
            simp only [List.filterMap_cons, Moment.reading?, readings_conclude, run_conclude_ok]
            exact ⟨trivial, trivial, trivial⟩

end Run

end Lightpen

section Poll

variable {β : Type} [RegisterBus β] {map : RegisterMap} {pen : Lightpen}

/-- What a poll of the pen does, by what its reads found. -/
structure PolledAsRead (map : RegisterMap) (polled : Polled β Lightpen Unit) : Prop where
  /-- A poll fails if a read of it does, and only then. -/
  fails_iff : (∃ cause, polled.answer = .error cause) ↔
    ∃ address cause, (address, .error cause) ∈ polled.readings
  /-- A failed poll attempts nothing and changes nothing. -/
  failed : ∀ cause, polled.answer = .error cause →
    polled.events = [] ∧ polled.after = polled.device
  /-- Any other poll either misses the pen or finds it. -/
  ended : polled.answer = .ok () → polled.Misses map ∨
    ∃ vhposr vposr joy0dat, polled.Finds map vhposr vposr joy0dat
  /-- A pen that is missed is released, if its tip was down, and keeps its place. -/
  missed : polled.Misses map →
    polled.events = (if polled.device.state.button then tipEvents false else []) ∧
      polled.after.state = { polled.device.state with phase := .idle, button := false }
  /-- A pen that is found reports its place, and its tip if that changed. -/
  found : ∀ vhposr vposr joy0dat, polled.Finds map vhposr vposr joy0dat →
    let beam := Beam.decode vhposr vposr
    let tipDown := joy0dat &&& penTipBit == 0
    polled.events = placeEvents beam tipDown ++
        (if tipDown = polled.device.state.button then [] else tipEvents tipDown) ∧
      polled.after.state = ⟨.active, beam.x, beam.y, tipDown⟩
  /-- Only a pen that is found moves. -/
  moved : ∀ axis value, .absolute axis value ∈ polled.events →
    ∃ vhposr vposr joy0dat, polled.Finds map vhposr vposr joy0dat
  /-- An edge of the tip is followed by the same edge of the tool. -/
  paired : ∀ earlier pressed later,
    polled.events = earlier ++ .button .touch pressed :: later →
      later.head? = some (.button .toolPen pressed)

/-- Wherever the tip stands in these events, the tool stands right after it. -/
theorem head?_of_tipEvents {moves : List Event} (hmoves : Button.touch.edges moves = [])
    {tip : Bool} :
    ∀ {earlier : List Event} {pressed : Bool} {later : List Event},
      moves ++ tipEvents tip = earlier ++ .button .touch pressed :: later →
        later.head? = some (.button .toolPen pressed) := by
  intro earlier pressed later heq
  have hnot : Event.button .touch pressed ∉ moves := by
    intro hin
    have hedge : pressed ∈ Button.touch.edges moves := List.mem_filterMap.mpr ⟨_, hin, rfl⟩
    rw [hmoves] at hedge
    exact absurd hedge List.not_mem_nil
  rcases List.append_eq_append_iff.mp heq with ⟨extra, hearlier, hrest⟩ | ⟨extra, hin, hrest⟩
  · cases extra with
    | nil =>
      injection hrest with htip hlater
      injection htip with _ hpressed
      rw [← hlater, hpressed]
      rfl
    | cons first extra =>
      -- Past the edge of the tip, only that of the tool is left.
      injection hrest with _ htail
      cases extra with
      | nil => injection htail with htool; injection htool with hbutton; cases hbutton
      | cons second extra => injection htail with _ hnil; exact absurd hnil.symm (by simp)
  · cases extra with
    | nil =>
      injection hrest with htip hlater
      injection htip with _ hpressed
      rw [hlater, hpressed]
      rfl
    | cons first extra =>
      injection hrest with hfirst _
      rw [hin, hfirst] at hnot
      exact absurd (by simp) hnot

/-! ### The three ways -/

variable {polled : Polled β Lightpen Unit}

theorem PolledAsRead.of_failed {address : Address} {cause : BusError}
    (hin : (address, .error cause) ∈ polled.readings) (hanswer : polled.answer = .error cause)
    (hevents : polled.events = []) (hafter : polled.after = polled.device) :
    PolledAsRead map polled where
  fails_iff := ⟨fun _ => ⟨address, cause, hin⟩, fun _ => ⟨cause, hanswer⟩⟩
  failed := fun _ _ => ⟨hevents, hafter⟩
  ended := by
    intro hok
    rw [hanswer] at hok
    cases hok
  missed := by
    rintro ⟨potgor, _, hreadings⟩
    rw [hreadings] at hin
    exact absurd hin (by simp)
  found := by
    rintro vhposr vposr joy0dat ⟨potgor, _, hreadings⟩
    rw [hreadings] at hin
    exact absurd hin (by simp)
  moved := by
    intro axis value hmove
    rw [hevents] at hmove
    cases hmove
  paired := by
    intro earlier pressed later heq
    rw [hevents] at heq
    exact absurd heq (by simp)

theorem PolledAsRead.of_missed {potgor : UInt16} (hseen : potgor &&& potPenSeen = 0)
    (hreadings : polled.readings = [(map.potgor, .ok potgor)]) (hanswer : polled.answer = .ok ())
    (hevents : polled.events = if polled.device.state.button then tipEvents false else [])
    (hafter : polled.after.state = { polled.device.state with phase := .idle, button := false }) :
    PolledAsRead map polled where
  fails_iff := by
    rw [hanswer, hreadings]
    simp
  failed := by
    intro cause herror
    rw [hanswer] at herror
    cases herror
  ended := fun _ => Or.inl ⟨potgor, hseen, hreadings⟩
  missed := fun _ => ⟨hevents, hafter⟩
  found := by
    rintro vhposr vposr joy0dat ⟨_, _, hfour⟩
    rw [hreadings] at hfour
    exact absurd hfour (by simp)
  moved := by
    intro axis value hmove
    rw [hevents] at hmove
    split at hmove
    · exact absurd hmove (by simp [tipEvents])
    · cases hmove
  paired := by
    intro earlier pressed later heq
    rw [hevents] at heq
    split at heq
    · exact head?_of_tipEvents (show Button.touch.edges [] = [] from rfl) heq
    · exact absurd heq (by simp)

theorem PolledAsRead.of_found {vhposr vposr joy0dat : UInt16}
    (hfinds : polled.Finds map vhposr vposr joy0dat) (hanswer : polled.answer = .ok ())
    (hevents : polled.events =
      placeEvents (Beam.decode vhposr vposr) (joy0dat &&& penTipBit == 0) ++
        if (joy0dat &&& penTipBit == 0) = polled.device.state.button then []
        else tipEvents (joy0dat &&& penTipBit == 0))
    (hafter : polled.after.state = ⟨.active, (Beam.decode vhposr vposr).x,
      (Beam.decode vhposr vposr).y, joy0dat &&& penTipBit == 0⟩) :
    PolledAsRead map polled where
  fails_iff := by
    obtain ⟨potgor, _, hreadings⟩ := hfinds
    rw [hanswer, hreadings]
    simp
  failed := by
    intro cause herror
    rw [hanswer] at herror
    cases herror
  ended := fun _ => Or.inr ⟨vhposr, vposr, joy0dat, hfinds⟩
  missed := by
    rintro ⟨_, _, hone⟩
    obtain ⟨potgor, _, hreadings⟩ := hfinds
    rw [hreadings] at hone
    exact absurd hone (by simp)
  found := by
    rintro vhposr' vposr' joy0dat' ⟨_, _, hreadings'⟩
    obtain ⟨_, _, hreadings⟩ := hfinds
    -- The reads of a poll are what they are, so these are the same words.
    rw [hreadings] at hreadings'
    simp only [List.cons.injEq, Prod.mk.injEq, Except.ok.injEq] at hreadings'
    obtain ⟨_, ⟨_, rfl⟩, ⟨_, rfl⟩, ⟨_, rfl⟩, _⟩ := hreadings'
    exact ⟨hevents, hafter⟩
  moved := fun _ _ _ => ⟨vhposr, vposr, joy0dat, hfinds⟩
  paired := by
    intro earlier pressed later heq
    rw [hevents] at heq
    split at heq
    · -- The three moves alone hold no edge.
      rw [List.append_nil] at heq
      have hin : Event.button .touch pressed ∈ placeEvents (Beam.decode vhposr vposr)
          (joy0dat &&& penTipBit == 0) := heq ▸ by simp
      exact absurd hin (by simp [placeEvents])
    · exact head?_of_tipEvents rfl heq

/-! ### Any poll -/

/-- A pen made for a machine, whose tip is only down while it is seen. -/
structure Lightpen.Sound (map : RegisterMap) (pen : Lightpen) : Prop where
  made : ∃ state, pen = { Lightpen.new map with state }
  button : pen.state.button = true → pen.state.phase = .active

theorem Lightpen.Sound.next (h : pen.Sound map) (seen : Option PenSighting) :
    ({ pen with state := pen.state.next seen } : Lightpen).Sound map := by
  obtain ⟨state, hstate⟩ := h.made
  exact ⟨⟨pen.state.next seen, by rw [hstate]⟩, pen.state.button_next h.button seen⟩

theorem Lightpen.Sound.registers (h : pen.Sound map) :
    pen.potgor = map.potgor ∧ pen.vhposr = map.vhposr ∧ pen.vposr = map.vposr ∧
      pen.joy0dat = map.joy0dat := by
  obtain ⟨state, hstate⟩ := h.made
  rw [hstate]
  exact ⟨rfl, rfl, rfl, rfl⟩

/-- A poll of a sound pen does what its reads call for, and leaves a sound pen. -/
theorem Lightpen.Sound.poll (h : pen.Sound map) (bus : β) :
    PolledAsRead map (pollOnce Lightpen.poll pen bus) ∧
      (pollOnce Lightpen.poll pen bus).after.Sound map := by
  obtain ⟨hpotgor, hvhposr, hvposr, hjoy0dat⟩ := h.registers
  rcases pen.poll_cases bus with ⟨address, cause, hfailed, hvalue, hremarks⟩ |
    ⟨potgor, hseen, hreadings, hvalue, hremarks⟩ |
    ⟨potgor, vhposr, vposr, joy0dat, hseen, hreadings, hvalue, hremarks⟩
  · have hafter : (pollOnce Lightpen.poll pen bus).after = pen := congrArg Prod.snd hvalue
    refine ⟨.of_failed hfailed (congrArg Prod.fst hvalue) ?_ hafter, ?_⟩
    · exact congrArg (List.filterMap Remark.event?) hremarks
    · rw [hafter]
      exact h
  · rw [hpotgor] at hreadings
    have hafter := congrArg Prod.snd hvalue
    refine ⟨.of_missed hseen hreadings (congrArg Prod.fst hvalue) ?_ ?_, ?_⟩
    · exact (congrArg (List.filterMap Remark.event?) hremarks).trans
        (pen.state.events_none h.button)
    · exact (congrArg Lightpen.state hafter).trans (pen.state.next_none h.button)
    · unfold Polled.after
      rw [hafter]
      exact h.next none
  · rw [hpotgor, hvhposr, hvposr, hjoy0dat] at hreadings
    have hafter := congrArg Prod.snd hvalue
    refine ⟨.of_found ⟨potgor, hseen, hreadings⟩ (congrArg Prod.fst hvalue) ?_ ?_, ?_⟩
    · exact (congrArg (List.filterMap Remark.event?) hremarks).trans
        (pen.state.events_some _ _)
    · exact congrArg Lightpen.state hafter
    · unfold Polled.after
      rw [hafter]
      exact h.next _

/-- The tip has an edge in a poll if it changed, and no other. -/
theorem PolledAsRead.touches (h : PolledAsRead map polled) :
    Button.touch.edges polled.events =
      if polled.after.state.button = polled.device.state.button then []
      else [polled.after.state.button] := by
  cases hanswer : polled.answer with
  | error cause =>
    obtain ⟨hevents, hafter⟩ := h.failed cause hanswer
    rw [hevents, hafter, if_pos rfl]
    rfl
  | ok _ =>
    rcases h.ended hanswer with hmissed | ⟨vhposr, vposr, joy0dat, hfound⟩
    · obtain ⟨hevents, hafter⟩ := h.missed hmissed
      rw [hevents, hafter]
      cases polled.device.state.button <;> rfl
    · obtain ⟨hevents, hafter⟩ := h.found vhposr vposr joy0dat hfound
      rw [hevents, hafter, Button.edges_append]
      show [] ++ Button.touch.edges _ = _
      rw [List.nil_append]
      split <;> rfl

/-! ## Runs -/

/-- The pen after a list of polls: each of them did what its reads called for, and the
edges of the tip take turns and end in what the tip is now. -/
structure PenInv (map : RegisterMap) (done : List (Polled β Lightpen Unit)) (pen : Lightpen) :
    Prop where
  sound : pen.Sound map
  asRead : ∀ polled ∈ done, PolledAsRead map polled
  alternates : Alternates (Button.touch.edges (done.flatMap Polled.events))
  last : (Button.touch.edges (done.flatMap Polled.events)).getLastD false = pen.state.button

theorem penInv_new (map : RegisterMap) :
    PenInv map ([] : List (Polled β Lightpen Unit)) (Lightpen.new map) where
  sound := ⟨⟨{}, rfl⟩, fun hdown => absurd hdown Bool.false_ne_true⟩
  asRead := fun _ hin => absurd hin List.not_mem_nil
  alternates := .nil false
  last := rfl

theorem penInv_step (done : List (Polled β Lightpen Unit)) (pen : Lightpen) (bus : β)
    (h : PenInv map done pen) :
    PenInv map (done ++ [pollOnce Lightpen.poll pen bus])
      (pollOnce Lightpen.poll pen bus).after := by
  obtain ⟨hasRead, hsound⟩ := h.sound.poll bus
  have hedges : Button.touch.edges
      ((done ++ [pollOnce Lightpen.poll pen bus]).flatMap Polled.events) =
      Button.touch.edges (done.flatMap Polled.events) ++
        if (pollOnce Lightpen.poll pen bus).after.state.button = pen.state.button then []
        else [(pollOnce Lightpen.poll pen bus).after.state.button] := by
    rw [List.flatMap_append, List.flatMap_singleton, Button.edges_append, hasRead.touches]
    rfl
  obtain ⟨halternates, hlast⟩ :=
    h.alternates.follow h.last (pollOnce Lightpen.poll pen bus).after.state.button
  refine ⟨hsound, fun polled hin => ?_, ?_, ?_⟩
  · rcases List.mem_append.mp hin with hearlier | hnow
    · exact h.asRead polled hearlier
    · rw [List.mem_singleton.mp hnow]
      exact hasRead
  · rw [hedges]
    exact halternates
  · rw [hedges]
    exact hlast

/-- **The pen end to end.** Over any run of polls of a new pen, on any bus: each poll does
what its reads call for and nothing if one of them fails, the edges of the tip take
turns, starting with a press, the last one says how the tip is now, and the tip is only
ever down on a pen that is seen. -/
theorem lightpen_polls_consistent (map : RegisterMap) (changes : List (β → β)) (bus : β) :
    let done := polls Lightpen.poll changes (Lightpen.new map) bus
    let pen := afterPolls done (Lightpen.new map)
    (pen.state.button = true → pen.state.phase = .active) ∧
      (∀ polled ∈ done, PolledAsRead map polled) ∧
      Alternates (Button.touch.edges (done.flatMap Polled.events)) ∧
      (Button.touch.edges (done.flatMap Polled.events)).getLastD false = pen.state.button := by
  intro done pen
  have hinv : PenInv map done pen :=
    polls_inv (fun done pen bus => penInv_step done pen bus) changes bus (penInv_new map)
  exact ⟨hinv.sound.button, hinv.asRead, hinv.alternates, hinv.last⟩

end Poll

end InputBridge
