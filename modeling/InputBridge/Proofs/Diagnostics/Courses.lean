import InputBridge.Proofs.Device.MatrixScan
import InputBridge.Proofs.Diagnostics.Counts

/-!
# What the checks do to find out

The lines of a report say what the checks of the devices found. This module says what they do to
find it: the course of a check is the accesses that it makes, in order and with their answers, and
`Course` are the courses that the check of a device can take, and which of them pass it. The
keyboard is set up and scanned, by a plan that is fixed beforehand. The mouse is set up by an
update of one register, and if that succeeds the lines of every port are read, whatever came of
the ports before it. The latch of the pen is enabled by an update of another register, and
whatever comes of that the pen is looked for, and its place is read if it is seen.

Every check takes such a course, on any bus (`course_checkOf`). So what a check counts is the
number of courses that did not pass (`run_counts_courses`).
-/

namespace InputBridge

/-- Is it an access? -/
def Moment.isAccess {ω : Type} (moment : Moment ω) : Bool := moment.access?.isSome

namespace Program

variable {ω α γ β : Type} [RegisterBus β]

/-- The accesses of a run, in order and with their answers. -/
def course (program : Program ω α) (bus : β) : List (Moment ω) :=
  (program.history bus).filter Moment.isAccess

theorem course_bind (first : Program ω α) (next : α → Program ω γ) (bus : β) :
    (first >>= next).course bus =
      first.course bus ++ (next (first.run bus).value).course (first.run bus).bus := by
  unfold course
  rw [history_bind, List.filter_append]

theorem mapRemarks_bind {ω' : Type} (f : ω → ω') (first : Program ω α) (next : α → Program ω γ) :
    (first >>= next).mapRemarks f =
      first.mapRemarks f >>= fun value => (next value).mapRemarks f := by
  show (first.bind next).mapRemarks f = _
  induction first with
  | done value => rfl
  | read address width branch ih => exact congrArg (Program.read address width) (funext ih)
  | write address width value branch ih =>
    exact congrArg (Program.write address width value) (funext ih)
  | emit out rest ih => exact congrArg (Program.emit (f out)) ih

/-- To say something takes no access. -/
theorem course_remarks_bind (outs : List ω) (next : Unit → Program ω α) (bus : β) :
    (remarks outs >>= next).course bus = (next ()).course bus := by
  have hnone : (remarks outs).course bus = [] := by
    unfold course
    rw [history_remarks]
    exact List.filter_eq_nil_iff.mpr fun moment hin => by
      obtain ⟨out, -, rfl⟩ := List.mem_map.mp hin
      exact Bool.false_ne_true
  rw [course_bind, hnone, run_remarks, List.nil_append]

end Program

/-- The moments of a plan are accesses. -/
theorem Outcome.filter_isAccess {ω α : Type} {plan : List Access} {made : List (Moment ω)}
    {answer : Except BusError α} (h : Outcome plan made answer) :
    made.filter Moment.isAccess = made := by
  have hcarried : ∀ {plan : List Access} {made : List (Moment ω)}, CarriedOut plan made →
      ∀ moment ∈ made, moment.isAccess = true := by
    intro plan made h moment hin
    have haccess : moment.access? ∈ plan.map some := h.accesses ▸ List.mem_map_of_mem hin
    obtain ⟨access, -, heq⟩ := List.mem_map.mp haccess
    unfold Moment.isAccess
    rw [← heq]
    rfl
  refine List.filter_eq_self.mpr fun moment hin => ?_
  cases answer with
  | ok value => exact hcarried h moment hin
  | error cause =>
    obtain ⟨done, failing, rest, -, granted, refused, rfl, hdone, hfailing, -⟩ := h
    rcases List.mem_append.mp hin with hgranted | hrefused
    · exact hcarried hdone moment hgranted
    · rw [List.mem_singleton.mp hrefused]
      unfold Moment.isAccess
      rw [hfailing]
      rfl

/-- The course of an attempt that follows a plan. -/
theorem Attempt.Follows.course {ω α β : Type} [RegisterBus β] {plan : List Access}
    {attempt : Attempt ω α} (h : attempt.Follows plan) (bus : β) :
    Outcome plan (attempt.run.course bus) (attempt.run.run bus).value := by
  have houtcome : Outcome plan (attempt.run.history bus) (attempt.run.run bus).value :=
    Program.Follows.run h bus
  unfold Program.course
  rw [houtcome.filter_isAccess]
  exact houtcome

namespace Diagnostics

variable {β : Type} [RegisterBus β]

theorem course_print_bind {α : Type} (line : String) (next : Unit → Program Output α) (bus : β) :
    (print line >>= next).course bus = (next ()).course bus :=
  Program.course_remarks_bind [.line line] next bus

/-! ## Courses -/

/-- A register is read and written back changed. The first access that fails is the last one. -/
inductive Updates (address : Address) (width : Width) (change : UInt16 → UInt16) :
    List (Moment Output) → Bool → Prop where
  | done (word : UInt16) : Updates address width change
      [.read address width (.ok word), .write address width (change word) (.ok ())] true
  | unread (cause : BusError) : Updates address width change
      [.read address width (.error cause)] false
  | unwritten (word : UInt16) (cause : BusError) : Updates address width change
      [.read address width (.ok word), .write address width (change word) (.error cause)] false

/-- The accesses of the check of a keyboard: its ports are set up, and it is scanned. -/
def keyboardPlan (map : RegisterMap) : List Access :=
  [.write map.ciaaDdra .byte 0xFF, .write map.ciaaDdrb .byte 0x00] ++
    (Keyboard.new map .standard).scanPlan

/-- The reads of the button lines of a port. -/
def portPlan (lines : PortLines) : List Access :=
  [.read lines.fire .byte, .read lines.pot .word]

/-- The reads of the place of a pen and of its tip. -/
def sightingPlan (map : RegisterMap) : List Access :=
  [.read map.vhposr .word, .read map.vposr .word, .read map.joy0dat .word]

/-- Ports are visited one after the other. All of them have to answer, but none is left out. -/
inductive Visits (map : RegisterMap) : List Port → List (Moment Output) → Bool → Prop where
  | nil : Visits map [] [] true
  | cons {port : Port} {rest : List Port} {made more : List (Moment Output)} {passed : Bool}
      {answer : Except BusError UInt8} (first : Outcome (portPlan (port.lines map)) made answer)
      (later : Visits map rest more passed) :
      Visits map (port :: rest) (made ++ more) (answer.isOk && passed)

/-- A pen is looked for, and its place is read just if it is seen. -/
inductive Senses (map : RegisterMap) : List (Moment Output) → Bool → Prop where
  | unread (cause : BusError) : Senses map [.read map.potgor .word (.error cause)] false
  | unseen {word : UInt16} (h : word &&& potPenSeen = 0) :
      Senses map [.read map.potgor .word (.ok word)] true
  | seen {word : UInt16} {made : List (Moment Output)}
      {answer : Except BusError (Option PenSighting)} (h : word &&& potPenSeen ≠ 0)
      (place : Outcome (sightingPlan map) made answer) :
      Senses map (.read map.potgor .word (.ok word) :: made) answer.isOk

/-- The directions of a port once the fire lines of some mice are inputs. -/
def withInputs (mouse : Mouse) (direction : UInt16) : UInt16 :=
  (direction.toUInt8 &&& ~~~mouse.fireBits).toUInt16

/-- The courses that the check of a device can take, and whether it is passed then. -/
inductive Course (config : Config) (map : RegisterMap) :
    Device → List (Moment Output) → Bool → Prop where
  | keyboard {made : List (Moment Output)} {answer : Except BusError Snapshot}
      (scanned : Outcome (keyboardPlan map) made answer) :
      Course config map .keyboard made answer.isOk
  | mouse {made more : List (Moment Output)} {passed : Bool}
      (ready : Updates map.ciaaDdra .byte
        (withInputs (Mouse.new map config.mousePorts config.maxMouseDelta)) made true)
      (visited : Visits map config.mousePorts more passed) :
      Course config map .mouse (made ++ more) passed
  | mouseRefused {made : List (Moment Output)}
      (refused : Updates map.ciaaDdra .byte
        (withInputs (Mouse.new map config.mousePorts config.maxMouseDelta)) made false) :
      Course config map .mouse made false
  | lightpen {made more : List (Moment Output)} {enabled passed : Bool}
      (latch : Updates map.bplcon0 .word (· ||| latchEnableBit) made enabled)
      (sensed : Senses map more passed) :
      Course config map .lightpen (made ++ more) passed

/-- A check that tries something and tells what came of it takes the course of what it tried, and
is passed if that succeeded. -/
theorem told_of_tried {α : Type} {takes : List (Moment Output) → Bool → Prop}
    {attempt : Attempt Output α} {tell : Except BusError α → Program Output Bool} {bus : β}
    (h : takes (attempt.run.course bus) (attempt.run.run bus).value.isOk)
    (htell : ∀ (answer : Except BusError α) (bus : β),
      (tell answer).course bus = [] ∧ ((tell answer).run bus).value = answer.isOk) :
    takes ((attempt.run >>= tell).course bus) ((attempt.run >>= tell).run bus).value := by
  obtain ⟨hcourse, hvalue⟩ := htell (attempt.run.run bus).value (attempt.run.run bus).bus
  rw [Program.course_bind, Program.run_bind, hcourse, List.append_nil, hvalue]
  exact h

/-- An update of a register, written out. -/
theorem updates_of_update (address : Address) (width : Width) (change : UInt16 → UInt16)
    (bus : β) :
    let update : Program Output (Except BusError Unit) := .read address width fun answer =>
      match answer with
      | .ok word => .write address width (change word) .done
      | .error cause => .done (.error cause)
    Updates address width change (update.course bus) (update.run bus).value.isOk := by
  intro update
  unfold Program.course
  simp only [update, Program.history, Program.run]
  obtain ⟨answer, left⟩ := RegisterBus.read address width bus
  cases answer with
  | error cause => exact .unread cause
  | ok word =>
    simp only [Program.history, Program.run]
    obtain ⟨answer, left⟩ := RegisterBus.write address width (change word) left
    cases answer with
    | error cause => exact .unwritten word cause
    | ok _ => exact .done word

/-! ## The keyboard -/

theorem follows_keyboardPlan (map : RegisterMap) :
    (do (Keyboard.new map .standard).setUp; (Keyboard.new map .standard).scan :
      Attempt Output Snapshot).Follows (keyboardPlan map) := by
  have hselect := Attempt.follows_write (ω := Output) map.ciaaDdra .byte 0xFF
  have hsense := Attempt.follows_write (ω := Output) map.ciaaDdrb .byte 0x00
  exact (hselect.bind fun _ => hsense).bind fun _ => (Keyboard.new map .standard).scan_follows

theorem course_checkKeyboard (config : Config) (map : RegisterMap) (bus : β) :
    Course config map .keyboard ((checkKeyboard map).course bus)
      ((checkKeyboard map).run bus).value := by
  refine told_of_tried (.keyboard ((follows_keyboardPlan map).course bus)) fun answer bus => ?_
  cases answer with
  | error cause => exact ⟨course_print_bind .., rfl⟩
  | ok snapshot =>
    refine ⟨(course_print_bind ..).trans (Program.course_remarks_bind ..), ?_⟩
    rw [Program.run_bind, Program.run_bind]
    rfl

/-! ## The mouse -/

theorem follows_portPlan (mouse : Mouse) (port : Port) :
    (mouse.readButtons port : Attempt Output UInt8).Follows (portPlan (port.lines mouse.map)) := by
  have hfire := Attempt.follows_readByte (ω := Output) (port.lines mouse.map).fire
  have hpot := Attempt.follows_read (ω := Output) (port.lines mouse.map).pot .word
  exact hfire.bind fun _ => hpot.bind fun _ => Attempt.follows_pure _

theorem visits_checkPorts (mouse : Mouse) : ∀ (ports : List Port) (bus : β),
    Visits mouse.map ports ((checkPorts mouse ports).course bus)
      ((checkPorts mouse ports).run bus).value
  | [], _ => .nil
  | port :: rest, bus => by
    have hfirst := (follows_portPlan mouse port).course bus
    unfold checkPorts
    rw [Program.course_bind, Program.run_bind]
    dsimp only
    generalize (mouse.readButtons port : Attempt Output UInt8).run.run bus = ran at hfirst ⊢
    obtain ⟨answer, left, said⟩ := ran
    have hrest := visits_checkPorts mouse rest left
    cases answer with
    | ok buttons =>
      dsimp only
      rw [course_print_bind]
      exact .cons hfirst hrest
    | error cause =>
      -- The other ports are visited all the same, and what they come to does not matter.
      dsimp only
      rw [course_print_bind, Program.course_bind]
      rw [Program.run_bind, Program.run_bind]
      show Visits mouse.map (port :: rest) (_ ++ (_ ++ [])) false
      rw [List.append_nil]
      exact .cons hfirst hrest

/-- The directions of the fire lines are updated. -/
theorem updates_setUp (mouse : Mouse) (bus : β) :
    Updates mouse.map.ciaaDdra .byte (withInputs mouse)
      ((mouse.setUp : Attempt Output Unit).run.course bus)
      ((mouse.setUp : Attempt Output Unit).run.run bus).value.isOk := by
  unfold Mouse.setUp
  rw [Attempt.run_readByte_bind]
  exact updates_of_update ..

theorem course_checkMouse (config : Config) (map : RegisterMap) (bus : β) :
    Course config map .mouse ((checkMouse config map).course bus)
      ((checkMouse config map).run bus).value := by
  have hready := updates_setUp (Mouse.new map config.mousePorts config.maxMouseDelta) bus
  unfold checkMouse
  rw [Program.course_bind, Program.run_bind]
  dsimp only
  generalize ((Mouse.new map config.mousePorts config.maxMouseDelta).setUp :
    Attempt Output Unit).run.run bus = ran at hready ⊢
  obtain ⟨answer, left, said⟩ := ran
  cases answer with
  | error cause =>
    dsimp only
    rw [course_print_bind]
    show Course config map .mouse (_ ++ []) false
    rw [List.append_nil]
    exact .mouseRefused hready
  | ok _ =>
    exact .mouse hready (visits_checkPorts
      (Mouse.new map config.mousePorts config.maxMouseDelta) config.mousePorts left)

/-! ## The pen -/

/-- The latch is enabled by an update of its register. -/
theorem updates_enableLatch (pen : Lightpen) (bus : β) :
    Updates pen.bplcon0 .word (· ||| latchEnableBit)
      ((pen.enableLatch : Attempt Output Unit).run.course bus)
      ((pen.enableLatch : Attempt Output Unit).run.run bus).value.isOk := by
  unfold Lightpen.enableLatch
  rw [Attempt.run_readWord_bind]
  exact updates_of_update ..

/-- To enable the latch nothing is said, so it does not matter how it would be said. -/
theorem mapRemarks_enableLatch (pen : Lightpen) :
    (pen.enableLatch : Attempt Note Unit).run.mapRemarks Output.note =
      (pen.enableLatch : Attempt Output Unit).run := by
  unfold Lightpen.enableLatch
  rw [Attempt.run_readWord_bind, Attempt.run_readWord_bind, Program.mapRemarks]
  congr 1
  funext answer
  cases answer <;> rfl

/-- Only a note is made of whether the latch could be enabled. -/
theorem updates_setUpPen (pen : Lightpen) (bus : β) :
    Updates pen.bplcon0 .word (· ||| latchEnableBit)
      ((pen.setUp.mapRemarks Output.note).course bus)
      ((pen.setUp.mapRemarks Output.note).run bus).value := by
  unfold Lightpen.setUp
  rw [Program.mapRemarks_bind, mapRemarks_enableLatch]
  refine told_of_tried (updates_enableLatch pen bus) fun answer bus => ?_
  cases answer with
  | error cause => exact ⟨rfl, rfl⟩
  | ok _ => exact ⟨rfl, rfl⟩

theorem follows_sightingPlan (map : RegisterMap) :
    (do return some (← (Lightpen.new map).sighting) :
      Attempt Output (Option PenSighting)).Follows (sightingPlan map) := by
  have hx := Attempt.follows_read (ω := Output) map.vhposr .word
  have hy := Attempt.follows_read (ω := Output) map.vposr .word
  have htip := Attempt.follows_read (ω := Output) map.joy0dat .word
  have hplace := hx.bind fun vhposr => hy.bind fun vposr =>
    Attempt.follows_pure (Beam.decode vhposr vposr)
  have hdown := htip.bind fun word => Attempt.follows_pure (word &&& penTipBit == 0)
  have hsighting := hplace.bind fun beam => hdown.bind fun tipDown =>
    Attempt.follows_pure (PenSighting.mk beam tipDown)
  exact hsighting.bind fun sighting => Attempt.follows_pure (some sighting)

/-- The pen is looked for. -/
theorem senses_sense (map : RegisterMap) (bus : β) :
    Senses map (((Lightpen.new map).sense : Attempt Output (Option PenSighting)).run.course bus)
      (((Lightpen.new map).sense :
        Attempt Output (Option PenSighting)).run.run bus).value.isOk := by
  unfold Lightpen.sense Lightpen.detect
  simp only [bind_assoc, pure_bind]
  rw [Attempt.run_readWord_bind]
  unfold Program.course
  simp only [Program.history, Program.run]
  show Senses map (List.filter _ (_ :: _)) _
  obtain ⟨answer, left⟩ := RegisterBus.read (Lightpen.new map).potgor .word bus
  cases answer with
  | error cause => exact .unread cause
  | ok word =>
    dsimp only
    by_cases hseen : word &&& potPenSeen = 0
    · have hnot : (word &&& potPenSeen != 0) = false := by simp [hseen]
      rw [hnot]
      exact .unseen hseen
    · have hsees : (word &&& potPenSeen != 0) = true := by simp [hseen]
      rw [hsees]
      exact .seen hseen ((follows_sightingPlan map).course left)

/-- The check of the pen, once the latch is enabled or not. -/
theorem senses_told (map : RegisterMap) (bus : β) :
    let program : Program Output Bool := do
      match ← (Lightpen.new map).sense.run with
      | .error cause =>
        print ("lightpen: FAILED (" ++ cause.message ++ ")")
        return false
      | .ok none =>
        print "lightpen: not detected"
        return true
      | .ok (some sighting) =>
        print (sightingLine sighting)
        return true
    Senses map (program.course bus) (program.run bus).value := by
  refine told_of_tried (senses_sense map bus) fun answer bus => ?_
  rcases answer with cause | none | sighting
  · exact ⟨course_print_bind .., rfl⟩
  · exact ⟨course_print_bind .., rfl⟩
  · exact ⟨course_print_bind .., rfl⟩

theorem course_checkLightpen (config : Config) (map : RegisterMap) (bus : β) :
    Course config map .lightpen ((checkLightpen map).course bus)
      ((checkLightpen map).run bus).value := by
  have hlatch := updates_setUpPen (Lightpen.new map) bus
  unfold checkLightpen
  rw [Program.course_bind, Program.run_bind]
  refine .lightpen hlatch ?_
  have hsensed := senses_told map
    (((Lightpen.new map).setUp.mapRemarks Output.note : Program Output Bool).run bus).bus
  cases (((Lightpen.new map).setUp.mapRemarks Output.note : Program Output Bool).run bus).value with
  | true => exact hsensed
  | false =>
    show Senses map ((print _ >>= fun _ => _).course _) _
    rw [course_print_bind]
    exact hsensed

/-! ## Every check -/

variable (config : Config)

/-- **Every check takes a course of its device**, on any bus, and is passed if the course is. -/
theorem course_checkOf (device : Device) (bus : β) :
    Course config (.forChipset config.chipset) device ((checkOf config device).course bus)
      ((checkOf config device).run bus).value := by
  cases device with
  | keyboard => exact course_checkKeyboard config _ bus
  | mouse => exact course_checkMouse config _ bus
  | lightpen => exact course_checkLightpen config _ bus

theorem course_of_mem : ∀ (devices : List Device) (bus : β),
    ∀ check ∈ checkedFrom config devices bus, Course config (.forChipset config.chipset)
      check.device (check.made.filter Moment.isAccess) check.passed
  | [], _, _, hin => nomatch hin
  | device :: rest, bus, check, hin => by
    rcases List.mem_cons.mp hin with rfl | hrest
    · exact course_checkOf config device bus
    · exact course_of_mem rest _ check hrest

/-- **The check counts the courses that did not pass.** On a bus that is brought up and a writer
without a limit, the checks of the enabled devices are made in turn, each takes a course of its
device, these are all the accesses that are made, and the number of courses that did not pass is
what the check gives. -/
theorem run_counts_courses (bus : MemoryBus) (hup : bus.connect.1 = .ok ()) :
    let report := run config (⟨bus, []⟩ : Traced MemoryBus) {}
    let devices := Device.all.filter config.enables.get
    let checks := checkedFrom config devices bus
    checks.map Checked.device = devices ∧
      (∀ check ∈ checks, Course config (.forChipset config.chipset) check.device
        (check.made.filter Moment.isAccess) check.passed) ∧
      report.bus.accesses = checks.flatMap Checked.accesses ∧
      report.failed = .ok (checks.countP (!·.passed)) := by
  intro report devices checks
  obtain ⟨hfailed, -, -, haccesses⟩ := run_of_connected config bus hup none
  exact ⟨devices_checkedFrom config devices bus, course_of_mem config devices bus, haccesses rfl,
    hfailed⟩

end Diagnostics

end InputBridge
