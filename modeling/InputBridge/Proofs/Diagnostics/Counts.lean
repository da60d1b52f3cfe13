import InputBridge.Proofs.Bus.Traced
import InputBridge.Proofs.Diagnostics.Checks
import InputBridge.Proofs.Event.BoundedWriter

/-!
# The check counts, and stops when it cannot write

A check is the checks of the enabled devices in turn, each to its end and each on the bus that the
one before leaves (`run_checkEach`); so its count is that of the devices that did not pass, and
these are the ones that a line of the report tells of. A writer with a limit takes the beginning
of the report. It ends the check at the line that it has no room for (`feed_kept`), and the
accesses until then are the first ones of the whole check.
-/

namespace InputBridge

/-- Is the device enabled? -/
def Config.enables (config : Config) : PerDevice Bool :=
  ⟨config.keyboard, config.mouse, config.lightpen⟩

namespace Diagnostics

/-! ## The failures of a register file -/

theorem legible_of_read {address : Address} {width : Width} {bus : MemoryBus} {cause : BusError}
    (h : (bus.read address width).1 = .error cause) : cause.Legible := by
  rw [MemoryBus.answer_read] at h
  split at h
  next => exact nomatch h
  next =>
    obtain rfl := Except.error.inj h
    have hwidth : Text.Printable width.text := by cases width <;> decide
    exact (((hwidth.append (by decide)).append (Text.printable_hex _ _)).append
      (by decide)).append (by decide)

theorem legible_of_write {address : Address} {width : Width} {value : UInt16} {bus : MemoryBus}
    {cause : BusError} (h : (bus.write address width value).1 = .error cause) :
    cause.Legible := by
  rw [MemoryBus.answer_write] at h
  split at h
  next => exact nomatch h
  next =>
    obtain rfl := Except.error.inj h
    have hwidth : Text.Printable width.text := by cases width <;> decide
    exact (((((hwidth.append (by decide)).append (Text.printable_hex _ _)).append
      (by decide)).append (Text.printable_hex _ _)).append (by decide)).append (by decide)

/-! ## The checks in turn -/

/-- The check of one device. -/
def checkOf (config : Config) : Device → Program Output Bool
  | .keyboard => checkKeyboard (.forChipset config.chipset)
  | .mouse => checkMouse config (.forChipset config.chipset)
  | .lightpen => checkLightpen (.forChipset config.chipset)

/-- What was done in the check of a device. -/
structure Checked where
  device : Device
  passed : Bool
  made : List (Moment Output)

namespace Checked

/-- The lines that it printed. -/
def lines (check : Checked) : List String := linesOf (check.made.filterMap Moment.remark?)

/-- The accesses that it made. -/
def accesses (check : Checked) : List Access := check.made.filterMap Moment.access?

/-- The addresses of those that failed. -/
def failures (check : Checked) : List Address := check.made.filterMap Moment.failedAt?

end Checked

section Turn

variable {β : Type} [RegisterBus β] (config : Config)

/-- The checks of some devices in turn: each goes to its end, and the next one starts on the bus
that it leaves. -/
def checkedFrom : List Device → β → List Checked
  | [], _ => []
  | device :: rest, bus =>
    ⟨device, ((checkOf config device).run bus).value, (checkOf config device).history bus⟩ ::
      checkedFrom rest ((checkOf config device).run bus).bus

theorem devices_checkedFrom : ∀ (devices : List Device) (bus : β),
    (checkedFrom config devices bus).map Checked.device = devices
  | [], _ => rfl
  | device :: rest, _ => congrArg (List.cons device) (devices_checkedFrom rest _)

/-- The checks of devices as one program. -/
def checkEach : List Device → Program Output Nat
  | [] => return 0
  | device :: rest => do
    let first ← countIf (config.enables.get device) (checkOf config device)
    return first + (← checkEach rest)

theorem checkAll_eq : checkAll config =
    (print ("chipset: " ++ config.chipset.name) >>= fun _ => checkEach config Device.all) := by
  simp [checkAll, checkEach, Device.all, Nat.add_assoc]
  rfl

/-- Whatever the check of a device comes to, the next one is made. -/
theorem run_checkEach : ∀ (devices : List Device) (bus : β),
    let checks := checkedFrom config (devices.filter config.enables.get) bus
    ((checkEach config devices).run bus).value = checks.countP (!·.passed) ∧
      (checkEach config devices).history bus = checks.flatMap Checked.made
  | [], _ => ⟨rfl, rfl⟩
  | device :: rest, bus => by
    intro checks
    cases henabled : config.enables.get device with
    | false =>
      have hchecks : checks = checkedFrom config (rest.filter config.enables.get) bus :=
        congrArg (checkedFrom config · bus) (List.filter_cons_of_neg (by simp [henabled]))
      have heach : checkEach config (device :: rest) = checkEach config rest := by
        have hzero : (HAdd.hAdd 0 : Nat → Nat) = id := funext Nat.zero_add
        simp [checkEach, henabled, countIf, hzero]
      rw [heach, hchecks]
      exact run_checkEach rest bus
    | true =>
      obtain ⟨hvalue, hhistory⟩ := run_checkEach rest ((checkOf config device).run bus).bus
      have hchecks : checks = ⟨device, ((checkOf config device).run bus).value,
          (checkOf config device).history bus⟩ :: checkedFrom config
            (rest.filter config.enables.get) ((checkOf config device).run bus).bus :=
        congrArg (checkedFrom config · bus) (List.filter_cons_of_pos henabled)
      have heach : checkEach config (device :: rest) = do
          let passed ← checkOf config device
          let later ← checkEach config rest
          return (if passed then 0 else 1) + later := by
        simp [checkEach, henabled, countIf]
      rw [heach, hchecks, Program.run_bind, Program.run_bind, Program.history_bind,
        Program.history_bind, Program.history_pure, List.append_nil, List.flatMap_cons, hhistory,
        List.countP_cons]
      refine ⟨?_, rfl⟩
      show (if _ then 0 else 1) + ((checkEach config rest).run _).value = _
      rw [hvalue, Nat.add_comm]
      cases ((checkOf config device).run bus).value <;> rfl

end Turn

theorem sound_of_mem (config : Config) : ∀ (devices : List Device) (bus : MemoryBus),
    ∀ check ∈ checkedFrom config devices bus, Sound (.forChipset config.chipset) check.device
      (check.made.filterMap Moment.remark?) check.failures check.passed
  | [], _, _, hin => nomatch hin
  | device :: rest, bus, check, hin => by
    rcases List.mem_cons.mp hin with rfl | hrest
    · have htells : (checkOf config device).Tells BusError.Legible
          (Sound (.forChipset config.chipset) device) := by
        cases device with
        | keyboard => exact tells_checkKeyboard _
        | mouse => exact tells_checkMouse config _
        | lightpen => exact tells_checkLightpen _
      have hrun := htells.run (fun _ _ _ _ => legible_of_read)
        (fun _ _ _ _ _ => legible_of_write) bus
      rw [Program.remarks_run] at hrun
      exact hrun
    · exact sound_of_mem config rest _ check hrest

/-! ## The text -/

theorem splitOn_printed {lines : List String} (h : ∀ line ∈ lines, Text.Printable line) :
    (printed lines).toList.splitOn '\n' = lines.map String.toList ++ [[]] :=
  Text.splitOn_lines fun line hin => (h line hin).no_lineEnd

theorem isAscii_printed {lines : List String} (h : ∀ line ∈ lines, Text.Printable line) :
    Text.IsAscii (printed lines) := by
  refine Text.isAscii_join fun text hin => ?_
  obtain ⟨line, hline, rfl⟩ := List.mem_map.mp hin
  exact Text.isAscii_append.mpr ⟨(h line hline).isAscii, by decide⟩

/-! ## Printing to a bounded writer -/

section Feed

variable {β α : Type} [RegisterBus β]

/-- A run that prints behind `before`, all of which is kept. -/
theorem feed_kept (program : Program Output α) : ∀ (bus : β) {writer : Writer} {before : String}
    (notes : Array Note), writer.text = kept writer.limit before →
    fits writer.limit before = true →
      let text := before ++ printed (linesOf (program.run bus).remarks)
      ∃ left notes', program.feed receive bus (writer, notes) =
        (if fits writer.limit text then .ok (program.run bus).value else .error (.output .full),
          left, { writer with text := kept writer.limit text }, notes') := by
  induction program with
  | done value =>
    intro bus writer before notes hkept hfits text
    have hnone : text = before := String.append_empty
    refine ⟨bus, notes, ?_⟩
    rw [hnone, if_pos hfits, ← hkept]
    rfl
  | read address width branch ih =>
    exact fun bus _ _ notes hkept hfits => ih _ _ notes hkept hfits
  | write address width value branch ih =>
    exact fun bus _ _ notes hkept hfits => ih _ _ notes hkept hfits
  | emit out rest ih =>
    intro bus writer before notes hkept hfits
    cases out with
    | note note => exact ih bus (notes.push note) hkept hfits
    | line line =>
      have hne : line ++ "\n" ≠ "" := by
        intro h
        exact absurd (congrArg String.toList h) (by simp)
      let after := before ++ (line ++ "\n")
      have hreceive : receive (.line line) (writer, notes) =
          (if fits writer.limit after then .ok () else .error (.output .full),
            { writer with text := kept writer.limit after }, notes) := by
        unfold receive
        dsimp only
        rw [Writer.write_of_kept hkept hne]
        cases hline : fits writer.limit (before ++ (line ++ "\n")) <;> simp [after]
      have htext : before ++ printed (linesOf ((Program.emit (.line line) rest).run bus).remarks) =
          after ++ printed (linesOf (rest.run bus).remarks) := by
        show before ++ printed (line :: linesOf (rest.run bus).remarks) = _
        rw [printed_cons, ← String.append_assoc]
      intro text
      rw [show text = _ from htext]
      unfold Program.feed
      rw [hreceive]
      cases hline : fits writer.limit after with
      | true => exact ih bus notes rfl hline
      | false =>
        -- The line is cut, so nothing is kept of what would have come after it.
        have hcut :
            fits writer.limit (after ++ printed (linesOf (rest.run bus).remarks)) = false := by
          by_contra hne
          rw [fits_of_append (Bool.eq_true_of_not_eq_false hne)] at hline
          cases hline
        rw [hcut, kept_append hline]
        exact ⟨bus, notes, rfl⟩

end Feed

section Run

variable (config : Config) (bus : MemoryBus)

/-- The checks of the enabled devices. -/
def checked : List Checked := checkedFrom config (Device.all.filter config.enables.get) bus

/-- The lines of the whole report. -/
def reported : List String :=
  ("chipset: " ++ config.chipset.name) :: (checked config bus).flatMap Checked.lines

/-- How many devices did not pass. -/
def failures : Nat := (checked config bus).countP (!·.passed)

theorem run_checkAll :
    ((checkAll config).run bus).value = failures config bus ∧
      linesOf ((checkAll config).run bus).remarks = reported config bus ∧
      (checkAll config).accesses bus = (checked config bus).flatMap Checked.accesses := by
  obtain ⟨hvalue, hhistory⟩ := run_checkEach config Device.all bus
  have hall : (checkAll config).history bus =
      .remark (.line ("chipset: " ++ config.chipset.name)) ::
        (checked config bus).flatMap Checked.made := by
    rw [checkAll_eq]
    exact congrArg (List.cons _) hhistory
  refine ⟨?_, ?_, ?_⟩
  · rw [checkAll_eq]
    exact hvalue
  · rw [Program.remarks_run, hall]
    show _ :: linesOf (((checked config bus).flatMap Checked.made).filterMap Moment.remark?) = _
    unfold linesOf reported
    rw [List.filterMap_flatMap, List.filterMap_flatMap]
    rfl
  · unfold Program.accesses
    rw [hall]
    show ((checked config bus).flatMap Checked.made).filterMap Moment.access? = _
    rw [List.filterMap_flatMap]
    rfl

theorem sound_checked : ∀ check ∈ checked config bus, Sound (.forChipset config.chipset)
    check.device (check.made.filterMap Moment.remark?) check.failures check.passed :=
  sound_of_mem config _ bus

theorem printable_reported : ∀ line ∈ reported config bus, Text.Printable line := by
  have hchipset : Text.Printable ("chipset: " ++ config.chipset.name) := by
    cases config.chipset <;> decide
  refine List.forall_mem_cons.mpr ⟨hchipset, fun line hin => ?_⟩
  obtain ⟨check, hcheck, hline⟩ := List.mem_flatMap.mp hin
  exact (sound_checked config bus check hcheck).printable line hline

/-- A device did not pass just if a line of the report tells so: its own check prints the line, and
no other one does. -/
theorem told_of_reported {check : Checked} (hcheck : check ∈ checked config bus) :
    (∃ line ∈ (printed (reported config bus)).toList.splitOn '\n',
      TellsFailure check.device line) ↔ check.passed = false := by
  have hsound := sound_checked config bus check hcheck
  rw [splitOn_printed (printable_reported config bus), hsound.told]
  constructor
  · rintro ⟨line, hin, htells⟩
    rcases List.mem_append.mp hin with hline | hend
    · obtain ⟨text, htext, rfl⟩ := List.mem_map.mp hline
      rcases List.mem_cons.mp htext with rfl | hlater
      · cases hchipset : config.chipset <;> cases hdevice : check.device <;>
          exact absurd (hchipset ▸ hdevice ▸ htells) (by decide)
      · obtain ⟨other, hother, hthere⟩ := List.mem_flatMap.mp hlater
        have hdevice : check.device = other.device :=
          (sound_checked config bus other hother).own text hthere _ htells.1
        have hsame : check = other := by
          refine List.inj_on_of_nodup_map ?_ hcheck hother hdevice
          rw [checked, devices_checkedFrom]
          exact List.Nodup.filter _ (by decide)
        exact ⟨text, hsame ▸ hthere, htells⟩
    · rw [List.mem_singleton.mp hend] at htells
      cases hdevice : check.device <;> exact absurd (hdevice ▸ htells) (by decide)
  · rintro ⟨line, hin, htells⟩
    have hreported : line ∈ reported config bus :=
      List.mem_cons_of_mem _ (List.mem_flatMap.mpr ⟨check, hcheck, hin⟩)
    exact ⟨line.toList, List.mem_append_left _ (List.mem_map_of_mem hreported), htells⟩

/-- So the devices that did not pass are those of which the report tells that they failed. -/
theorem failures_eq : failures config bus =
    (Device.all.filter config.enables.get).countP fun device =>
      ∃ line ∈ (printed (reported config bus)).toList.splitOn '\n', TellsFailure device line := by
  have hdevices : (checked config bus).map Checked.device = Device.all.filter config.enables.get :=
    devices_checkedFrom ..
  rw [← hdevices, List.countP_map]
  refine List.countP_congr fun check hin => ?_
  simp only [Function.comp_apply, decide_eq_true_eq, told_of_reported config bus hin,
    Bool.not_eq_true']

/-- Bringing up a traced bus makes no access. -/
theorem connect_traced : RegisterBus.connect (⟨bus, []⟩ : Traced MemoryBus) =
    (bus.connect.1, ⟨bus, []⟩) := by
  show (bus.connect.1, (⟨bus.connect.2, []⟩ : Traced MemoryBus)) = _
  rw [bus.connect_eq]

/-- A check on a traced bus is the check on the bus. -/
theorem run_traced (writer : Writer) :
    let report := run config (⟨bus, []⟩ : Traced MemoryBus) writer
    run config bus writer = ⟨report.failed, report.bus.bus, report.writer, report.notes⟩ := by
  obtain ⟨made, hfed, -⟩ :=
    (checkAll config).feed_traced receive (⟨bus, []⟩ : Traced MemoryBus) (writer, #[])
  have hconnect : RegisterBus.connect bus = (bus.connect.1, bus) :=
    Prod.ext rfl bus.connect_eq
  unfold run
  rw [connect_traced, hconnect]
  cases bus.connect.1 with
  | error cause => rfl
  | ok _ =>
    dsimp only
    rw [hfed]

/-- A check on a bus that cannot be brought up does nothing. -/
theorem run_of_unconnected {cause : BusError} (hdown : bus.connect.1 = .error cause)
    (writer : Writer) :
    run config (⟨bus, []⟩ : Traced MemoryBus) writer =
      ⟨.error (.connect cause), ⟨bus, []⟩, writer, []⟩ := by
  unfold run
  rw [connect_traced, hdown]

/-- A check on a bus that is brought up: the writer keeps the beginning of the report, and the check
goes to its end just if that is all of it. -/
theorem run_of_connected (hup : bus.connect.1 = .ok ()) (limit : Option Nat) :
    let report := run config (⟨bus, []⟩ : Traced MemoryBus) { limit }
    let text := printed (reported config bus)
    report.failed =
        (if fits limit text then .ok (failures config bus) else .error (.output .full)) ∧
      report.writer.text = kept limit text ∧
      report.bus.accesses <+: (checked config bus).flatMap Checked.accesses ∧
      (fits limit text = true →
        report.bus.accesses = (checked config bus).flatMap Checked.accesses) := by
  obtain ⟨hvalue, hlines, haccesses⟩ := run_checkAll config bus
  have hempty : ({ limit } : Writer).text = kept ({ limit } : Writer).limit "" :=
    (kept_empty limit).symm
  obtain ⟨left, notes, hfeed⟩ := feed_kept (checkAll config) bus #[] hempty (fits_empty limit)
  obtain ⟨made, hfed, hfirst, hwhole⟩ :=
    (checkAll config).feed_traced receive (⟨bus, []⟩ : Traced MemoryBus) ({ limit }, #[])
  rw [hfeed, hvalue, hlines, String.empty_append] at hfed hwhole
  rw [haccesses] at hfirst hwhole
  unfold run
  rw [connect_traced, hup]
  dsimp only
  rw [hfed]
  refine ⟨rfl, rfl, hfirst, fun hfits => hwhole ?_⟩
  show (if fits limit _ = true then _ else _ : Except Stop Nat).isOk = true
  rw [if_pos hfits]
  rfl

end Run

/-- **The check counts what it tells of, and stops when it cannot write.** A check without a limit
fails just if the channel cannot be brought up, and then nothing is printed and no register is
accessed. Otherwise it gives the number of enabled devices of which some line of the report tells
that they failed, in one line or in several. The report and the accesses are those of the checks
of the enabled devices in turn, each gone to its end whatever came of the ones before; and a line
tells of a failure just if an access failed, apart from those that enable the latch of the pen. On
a limited writer the check keeps the first bytes of the report, gives the same if that is all of
it and the failure of the writer otherwise, and makes the first of the accesses. A trace of the
accesses changes nothing else. -/
theorem run_counts_and_stops (config : Config) (bus : MemoryBus) :
    let traced : Traced MemoryBus := ⟨bus, []⟩
    let whole := run config traced {}
    let lines := whole.writer.text.toList.splitOn '\n'
    let devices := Device.all.filter config.enables.get
    let checks := checkedFrom config devices bus
    let size := (Text.bytes whole.writer.text).length
    (∀ writer, run config bus writer =
      let report := run config traced writer
      ⟨report.failed, report.bus.bus, report.writer, report.notes⟩) ∧
    (match bus.connect.1 with
      | .error cause => whole.failed = .error (.connect cause) ∧ whole.writer.text = "" ∧
        whole.bus.accesses = []
      | .ok () =>
        whole.failed = .ok (devices.countP fun device => ∃ line ∈ lines, TellsFailure device line) ∧
        whole.writer.text = printed
          (("chipset: " ++ config.chipset.name) :: checks.flatMap Checked.lines) ∧
        whole.bus.accesses = checks.flatMap Checked.accesses) ∧
    (∀ check ∈ checks,
      (∃ line ∈ check.lines, TellsFailure check.device line.toList) ↔
        ∃ address ∈ check.failures,
          ¬Spares (.forChipset config.chipset) check.device address) ∧
    ∀ limit : Nat,
      let cut := run config traced { limit := some limit }
      Text.bytes cut.writer.text = (Text.bytes whole.writer.text).take limit ∧
      cut.failed = (if size ≤ limit then whole.failed else .error (.output .full)) ∧
      cut.bus.accesses <+: whole.bus.accesses := by
  intro traced whole lines devices checks size
  have hchecks : ∀ check ∈ checks, (∃ line ∈ check.lines, TellsFailure check.device line.toList) ↔
      ∃ address ∈ check.failures, ¬Spares (.forChipset config.chipset) check.device address := by
    intro check hin
    have hsound := sound_checked config bus check hin
    exact hsound.told.symm.trans hsound.met
  refine ⟨run_traced config bus, ?_⟩
  cases hup : bus.connect.1 with
  | error cause =>
    have hdown := run_of_unconnected config bus hup
    have hwhole : whole = _ := hdown {}
    have htext : whole.writer.text = "" := congrArg (·.writer.text) hwhole
    have hfailed : whole.failed = .error (.connect cause) := congrArg Report.failed hwhole
    refine ⟨⟨hfailed, htext, congrArg (·.bus.accesses) hwhole⟩, hchecks, fun limit => ?_⟩
    intro cut
    have hcut : cut = _ := hdown { limit := some limit }
    have hsize : size ≤ limit := by simp [size, htext, Text.bytes]
    rw [if_pos hsize, hfailed, htext, hcut, hwhole]
    exact ⟨(List.take_nil).symm, rfl, List.prefix_rfl⟩
  | ok _ =>
    obtain ⟨hfailed, htext, -, haccesses⟩ := run_of_connected config bus hup none
    refine ⟨⟨?_, htext, haccesses rfl⟩, hchecks, fun limit => ?_⟩
    · have hlines : lines = (printed (reported config bus)).toList.splitOn '\n' :=
        congrArg (fun text => text.toList.splitOn '\n') htext
      rw [hlines, ← failures_eq]
      exact hfailed
    · intro cut
      obtain ⟨hcut, hkept, hfirst, -⟩ := run_of_connected config bus hup (some limit)
      have hascii : Text.IsAscii (printed (reported config bus)) :=
        isAscii_printed (printable_reported config bus)
      have hwhole : whole.writer.text = printed (reported config bus) := htext
      have hfits : fits (some limit) (printed (reported config bus)) = true ↔ size ≤ limit := by
        rw [fits_iff_bytes hascii, ← hwhole]
      refine ⟨?_, ?_, ?_⟩
      · rw [hwhole]
        exact (congrArg Text.bytes hkept).trans (bytes_kept hascii limit)
      · refine hcut.trans ?_
        rw [show whole.failed = .ok (failures config bus) from hfailed]
        simp only [hfits]
      · rw [show whole.bus.accesses = _ from haccesses rfl]
        exact hfirst

-- The buttons of both ports and the latch of the pen fail. That is one failed device.
example :
    let map := RegisterMap.forChipset .ocs
    let bus := ((idleMachine map).failReads map.ciaaPra .always).failWrites map.bplcon0 .always
    (run { mousePorts := [.port0, .port1] } bus {}).failed = .ok 1 := by decide

end Diagnostics

end InputBridge
