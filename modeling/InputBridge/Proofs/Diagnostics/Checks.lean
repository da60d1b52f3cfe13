import InputBridge.Proofs.Bus.Sayings
import InputBridge.Proofs.Diagnostics.Agreement
import InputBridge.Proofs.Matrix.Cells

/-!
# What a check prints

Every line of the check belongs to one device, whose name it begins with if it tells of a failure.
`Sound` relates what the check of one device prints to the accesses that failed in it and to what
it ends in: it did not pass just if a line of its own tells so, and just if an access failed other
than those that enable the latch. What is said one after the other is put together by
`Sound.append`, so two ports that fail are one failure; and each check is sound on every branch
(`tells_checkKeyboard`, `tells_checkMouse`, `tells_checkLightpen`), whatever the bus answers.
-/

namespace InputBridge

/-! ## Devices that say nothing -/

/-- A cause whose text can stand on a line. -/
def BusError.Legible (cause : BusError) : Prop := Text.Printable cause.message

section Silent

variable {ω : Type} {causes : BusError → Prop}

theorem Keyboard.silent_senseColumns (keyboard : Keyboard) : ∀ (columns : List Nat)
    (snapshot : Snapshot), (keyboard.senseColumns columns snapshot :
      Attempt ω Snapshot).Silent causes fun _ => True
  | [], snapshot => Attempt.silent_pure snapshot
  | _ :: rest, _ => (Attempt.silent_write trivial ..).bind fun _ =>
    (Attempt.silent_readByte trivial).bind fun _ => keyboard.silent_senseColumns rest _

theorem Keyboard.silent_setUp_scan (keyboard : Keyboard) :
    (do keyboard.setUp; keyboard.scan : Attempt ω Snapshot).Silent causes fun _ => True := by
  have hsetUp : (keyboard.setUp : Attempt ω Unit).Silent causes fun _ => True :=
    (Attempt.silent_write trivial ..).bind fun _ => Attempt.silent_write trivial ..
  have hscan : (keyboard.scan : Attempt ω Snapshot).Silent causes fun _ => True :=
    (keyboard.silent_senseColumns ..).bind fun _ =>
      (Attempt.silent_write trivial ..).bind fun _ => Attempt.silent_pure _
  exact hsetUp.bind fun _ => hscan

theorem Mouse.silent_setUp (mouse : Mouse) :
    (mouse.setUp : Attempt ω Unit).Silent causes fun _ => True :=
  (Attempt.silent_readByte trivial).bind fun _ => Attempt.silent_write trivial ..

theorem Mouse.silent_readButtons (mouse : Mouse) (port : Port) :
    (mouse.readButtons port : Attempt ω UInt8).Silent causes fun _ => True :=
  (Attempt.silent_readByte trivial).bind fun _ =>
    (Attempt.silent_read trivial .word).bind fun _ => Attempt.silent_pure _

theorem Lightpen.silent_enableLatch {region : Address → Prop} {pen : Lightpen}
    (h : region pen.bplcon0) : (pen.enableLatch : Attempt ω Unit).Silent causes region :=
  (Attempt.silent_read h .word).bind fun _ => Attempt.silent_write h ..

theorem Lightpen.silent_sense {region : Address → Prop} {pen : Lightpen}
    (hdetect : region pen.potgor) (hx : region pen.vhposr) (hy : region pen.vposr)
    (htip : region pen.joy0dat) :
    (pen.sense : Attempt ω (Option PenSighting)).Silent causes region := by
  have hseen : (pen.detect : Attempt ω Bool).Silent causes region :=
    (Attempt.silent_read hdetect .word).bind fun _ => Attempt.silent_pure _
  have hposition : (pen.position : Attempt ω Beam).Silent causes region :=
    (Attempt.silent_read hx .word).bind fun _ =>
      (Attempt.silent_read hy .word).bind fun _ => Attempt.silent_pure _
  have hdown : (pen.tip : Attempt ω Bool).Silent causes region :=
    (Attempt.silent_read htip .word).bind fun _ => Attempt.silent_pure _
  have hsighting : (pen.sighting : Attempt ω PenSighting).Silent causes region :=
    hposition.bind fun _ => hdown.bind fun _ => Attempt.silent_pure _
  refine hseen.bind fun seen => ?_
  cases seen with
  | false => exact Attempt.silent_pure none
  | true => exact hsighting.bind fun _ => Attempt.silent_pure _

end Silent

namespace Diagnostics

/-! ## Whose line it is -/

/-- The lines among what is put out. -/
def linesOf (outs : List Output) : List String := outs.filterMap Output.line?

/-- The line begins with the name of the device. -/
def Names (device : Device) (line : List Char) : Prop := device.name.toList <+: line

/-- The line tells that the device failed. -/
def TellsFailure (device : Device) (line : List Char) : Prop :=
  Names device line ∧ "FAILED".toList <:+: line

instance (device : Device) : DecidablePred (Names device) := fun line =>
  inferInstanceAs (Decidable (device.name.toList <+: line))

instance (device : Device) : DecidablePred (TellsFailure device) := fun line =>
  inferInstanceAs (Decidable (Names device line ∧ "FAILED".toList <:+: line))

/-- The line has nothing to do with any other device. -/
def IsOwn (device : Device) (line : List Char) : Prop := ∀ other, Names other line → other = device

theorem Names.head? {device : Device} {line : List Char} (h : Names device line) :
    line.head? = device.name.toList.head? := by
  obtain ⟨rest, rfl⟩ := h
  cases device <;> rfl

/-- The names of the devices differ in their first letter. -/
theorem Names.isOwn {device : Device} {line : List Char} (h : Names device line) :
    IsOwn device line := by
  intro other hother
  have hfirst : other.name.toList.head? = device.name.toList.head? :=
    hother.head?.symm.trans h.head?
  cases device <;> cases other <;> first | rfl | exact absurd hfirst (by decide)

theorem Names.append {device : Device} {head : String} (h : Names device head.toList)
    (more : String) : Names device (head ++ more).toList := by
  rw [String.toList_append]
  exact h.trans (List.prefix_append ..)

theorem TellsFailure.append {device : Device} {head : String}
    (h : TellsFailure device head.toList) (more : String) :
    TellsFailure device (head ++ more).toList := by
  refine ⟨h.1.append more, ?_⟩
  rw [String.toList_append]
  exact h.2.trans (List.prefix_append ..).isInfix

/-! ## A sound check -/

/-- The register of the latch, which the check of the pen may fail to access. -/
def Spares (map : RegisterMap) (device : Device) (address : Address) : Prop :=
  device = .lightpen ∧ address = map.bplcon0

/-- What the check of a device put out, the addresses of the accesses that failed in it, and
whether it passed belong together. -/
structure Sound (map : RegisterMap) (device : Device) (outs : List Output)
    (failed : List Address) (passed : Bool) : Prop where
  printable : ∀ line ∈ linesOf outs, Text.Printable line
  own : ∀ line ∈ linesOf outs, IsOwn device line.toList
  told : passed = false ↔ ∃ line ∈ linesOf outs, TellsFailure device line.toList
  met : passed = false ↔ ∃ address ∈ failed, ¬Spares map device address

/-- A line of a device that does not tell of a failure. -/
structure Fine (device : Device) (line : String) : Prop where
  printable : Text.Printable line
  own : IsOwn device line.toList
  quiet : ¬TellsFailure device line.toList

theorem fine_of_names {device : Device} {line : String} (hnames : Names device line.toList)
    (hprintable : Text.Printable line) (hquiet : 'F' ∉ line.toList) : Fine device line :=
  ⟨hprintable, hnames.isOwn, fun htells => hquiet (htells.2.subset (by decide))⟩

section Sound

variable {map : RegisterMap} {device : Device} {outs more : List Output}
  {failed further : List Address} {passed : Bool}

theorem sound_nil : Sound map device [] [] true :=
  ⟨fun _ hin => (nomatch hin), fun _ hin => (nomatch hin), by simp [linesOf], by simp⟩

theorem sound_note (note : Note) (hfailed : ∀ address ∈ failed, Spares map device address) :
    Sound map device [.note note] failed true :=
  ⟨fun _ hin => (nomatch hin), fun _ hin => (nomatch hin), by simp [linesOf, Output.line?],
    by simpa using hfailed⟩

theorem sound_fine {lines : List String} (h : ∀ line ∈ lines, Fine device line) :
    Sound map device (lines.map .line) [] true := by
  have hlines : linesOf (lines.map .line) = lines := by
    unfold linesOf
    rw [List.filterMap_map]
    exact List.filterMap_some
  refine ⟨?_, ?_, ?_, by simp⟩ <;> rw [hlines]
  · exact fun line hin => (h line hin).printable
  · exact fun line hin => (h line hin).own
  · simpa using fun line hin => (h line hin).quiet

/-- The line of an attempt that was given up: a head that tells so, and the cause. -/
theorem sound_failed {cause : BusError} {head : String} (hcause : cause.Legible)
    (hhead : Text.Printable head) (htells : TellsFailure device head.toList) (hmet : failed ≠ [])
    (hregion : ∀ address ∈ failed, ¬Spares map device address) :
    Sound map device [.line (head ++ cause.message ++ ")")] failed false where
  printable other hin := by
    rw [List.mem_singleton.mp hin]
    exact (hhead.append hcause).append (by decide)
  own other hin := by
    rw [List.mem_singleton.mp hin]
    exact ((htells.append _).append _).1.isOwn
  told := by simpa [linesOf, Output.line?] using (htells.append cause.message).append ")"
  met := by
    obtain ⟨address, hin⟩ := List.exists_mem_of_ne_nil failed hmet
    exact iff_of_true rfl ⟨address, hin, hregion address hin⟩

/-- What is put out later counts as much as what is put out first. -/
theorem Sound.append {later : Bool} (hfirst : Sound map device outs failed passed)
    (hlater : Sound map device more further later) :
    Sound map device (outs ++ more) (failed ++ further) (passed && later) := by
  have hlines : linesOf (outs ++ more) = linesOf outs ++ linesOf more := List.filterMap_append
  refine ⟨?_, ?_, ?_, ?_⟩
  · rw [hlines, List.forall_mem_append]
    exact ⟨hfirst.printable, hlater.printable⟩
  · rw [hlines, List.forall_mem_append]
    exact ⟨hfirst.own, hlater.own⟩
  · rw [hlines, Bool.and_eq_false_iff, hfirst.told, hlater.told]
    simp only [List.mem_append, or_and_right, exists_or]
  · rw [Bool.and_eq_false_iff, hfirst.met, hlater.met]
    simp only [List.mem_append, or_and_right, exists_or]

end Sound

theorem tells_print {causes : BusError → Prop} (line : String) :
    (print line).Tells causes fun said failed _ => said = [.line line] ∧ failed = [] := ⟨rfl, rfl⟩

/-! ## The keyboard -/

theorem printable_rowLine (snapshot : Snapshot) (row : Nat) :
    Text.Printable (rowLine snapshot row) := by
  have hheld : Text.Printable (if heldLabels snapshot row = [] then "-"
      else " ".intercalate (heldLabels snapshot row)) := by
    split
    next => decide
    next =>
      refine Text.printable_intercalate (by decide) fun label hin => ?_
      obtain ⟨column, -, hlabel⟩ := List.mem_filterMap.mp hin
      obtain ⟨key, -, rfl⟩ := Option.map_eq_some_iff.mp hlabel
      exact key.printable_label
  have hhead : Text.Printable "  row " := by decide
  exact ((((hhead.append (Text.printable_repr row)).append (by decide)).append
    (Text.printable_binary _ _)).append (by decide)).append hheld

/-- The line of a row begins with a space, as no name does. -/
theorem not_names_rowLine (device : Device) (snapshot : Snapshot) (row : Nat) :
    ¬Names device (rowLine snapshot row).toList := by
  intro h
  have hfirst : (rowLine snapshot row).toList.head? = some ' ' := by simp [rowLine]
  rw [h.head?] at hfirst
  cases device <;> exact absurd hfirst (by decide)

theorem fine_rowLine (snapshot : Snapshot) (row : Nat) : Fine .keyboard (rowLine snapshot row) where
  printable := printable_rowLine snapshot row
  own other h := absurd h (not_names_rowLine other snapshot row)
  quiet h := not_names_rowLine .keyboard snapshot row h.1

theorem tells_checkKeyboard (map : RegisterMap) :
    (checkKeyboard map).Tells BusError.Legible (Sound map .keyboard) := by
  refine Program.Tells.bind (Keyboard.silent_setUp_scan _) fun outs failed answer hanswer => ?_
  obtain rfl := hanswer.outs
  cases answer with
  | error cause =>
    obtain ⟨hcause, hmet⟩ := hanswer.refused cause rfl
    show Sound map .keyboard [.line ("keyboard: FAILED (" ++ cause.message ++ ")")] (failed ++ [])
      false
    rw [List.append_nil]
    exact sound_failed hcause (by decide) (by decide) hmet fun _ _ h => nomatch h.1
  | ok snapshot =>
    obtain rfl := hanswer.granted snapshot rfl
    have hok : ∀ line ∈ ["keyboard: ok"], Fine .keyboard line :=
      List.forall_mem_singleton.mpr (fine_of_names (by decide) (by decide) (by decide))
    have hrows : ∀ line ∈ (List.range rowCount).map (rowLine snapshot), Fine .keyboard line := by
      intro line hin
      obtain ⟨row, -, rfl⟩ := List.mem_map.mp hin
      exact fine_rowLine snapshot row
    have hall : Sound map .keyboard _ [] true := (sound_fine hok).append (sound_fine hrows)
    rw [List.map_map] at hall
    refine Program.Tells.bind (tells_print _) fun _ _ _ hsaid => ?_
    obtain ⟨rfl, rfl⟩ := hsaid
    refine Program.Tells.bind (Program.tells_remarks _) fun _ _ _ hsaid => ?_
    obtain ⟨rfl, rfl⟩ := hsaid
    show Sound map .keyboard (.line "keyboard: ok" :: (_ ++ [])) [] true
    rw [List.append_nil]
    exact hall

/-! ## The mouse -/

/-- What the lines of a port begin with. -/
theorem names_port (port : Port) :
    Names .mouse ("mouse port " ++ port.index.repr ++ ": ").toList := by
  cases port <;> decide

theorem fine_port (port : Port) (buttons : UInt8) : Fine .mouse
    ("mouse port " ++ port.index.repr ++ ": " ++ "ok, buttons " ++ buttonNames buttons) := by
  have hhead : Text.Printable ("mouse port " ++ port.index.repr ++ ": " ++ "ok, buttons ") ∧
      'F' ∉ ("mouse port " ++ port.index.repr ++ ": " ++ "ok, buttons ").toList := by
    cases port <;> decide
  have hnames : Text.Printable (buttonNames buttons) ∧ 'F' ∉ (buttonNames buttons).toList := by
    unfold buttonNames
    by_cases hleft : buttons &&& leftBit = 0 <;> by_cases hright : buttons &&& rightBit = 0 <;>
      by_cases hmiddle : buttons &&& middleBit = 0 <;>
        simp only [List.filterMap_cons, List.filterMap_nil, hleft, hright, hmiddle, if_true,
          if_false] <;> decide
  refine fine_of_names (((names_port port).append _).append _) (hhead.1.append hnames.1) ?_
  rw [String.toList_append, List.mem_append]
  exact not_or.mpr ⟨hhead.2, hnames.2⟩

theorem tellsFailure_port (port : Port) : TellsFailure .mouse
    ("mouse port " ++ port.index.repr ++ ": " ++ "FAILED (").toList := by
  cases port <;> decide

theorem printable_port (port : Port) :
    Text.Printable ("mouse port " ++ port.index.repr ++ ": " ++ "FAILED (") := by
  cases port <;> decide

/-- The check of ports in turn: what one finds does not change what is done at the next. -/
theorem tells_checkPorts (map : RegisterMap) (mouse : Mouse) : ∀ visits : List Port,
    (checkPorts mouse visits).Tells BusError.Legible (Sound map .mouse)
  | [] => sound_nil
  | port :: rest => by
    refine Program.Tells.bind (mouse.silent_readButtons port) fun outs failed answer hanswer => ?_
    obtain rfl := hanswer.outs
    cases answer with
    | ok buttons =>
      obtain rfl := hanswer.granted buttons rfl
      have hport : ∀ line ∈ [_], Fine .mouse line :=
        List.forall_mem_singleton.mpr (fine_port port buttons)
      refine Program.Tells.bind (tells_print _) fun _ _ _ hsaid => ?_
      obtain ⟨rfl, rfl⟩ := hsaid
      exact (tells_checkPorts map mouse rest).imp fun _ _ _ h => (sound_fine hport).append h
    | error cause =>
      obtain ⟨hcause, hmet⟩ := hanswer.refused cause rfl
      have hport : Sound map .mouse [.line _] failed false :=
        sound_failed hcause (printable_port port) (tellsFailure_port port) hmet
          fun _ _ h => nomatch h.1
      refine Program.Tells.bind (tells_print _) fun _ _ _ hsaid => ?_
      obtain ⟨rfl, rfl⟩ := hsaid
      refine Program.Tells.bind (tells_checkPorts map mouse rest) fun more further _ hrest => ?_
      show Sound map .mouse ([.line _] ++ (more ++ [])) (failed ++ (further ++ [])) false
      rw [List.append_nil, List.append_nil]
      exact hport.append hrest

theorem tells_checkMouse (config : Config) (map : RegisterMap) :
    (checkMouse config map).Tells BusError.Legible (Sound map .mouse) := by
  refine Program.Tells.bind (Mouse.silent_setUp _) fun outs failed answer hanswer => ?_
  obtain rfl := hanswer.outs
  cases answer with
  | error cause =>
    obtain ⟨hcause, hmet⟩ := hanswer.refused cause rfl
    show Sound map .mouse [.line ("mouse: FAILED (" ++ cause.message ++ ")")] (failed ++ []) false
    rw [List.append_nil]
    exact sound_failed hcause (by decide) (by decide) hmet fun _ _ h => nomatch h.1
  | ok _ =>
    obtain rfl := hanswer.granted () rfl
    exact tells_checkPorts map _ config.mousePorts

/-! ## The pen -/

theorem fine_sightingLine (sighting : PenSighting) : Fine .lightpen (sightingLine sighting) := by
  have hdigits : ∀ n : Nat, 'F' ∉ n.repr.toList :=
    fun n hin => absurd (Text.isDigit_of_mem_repr hin) (by decide)
  have htip : ∀ down : Bool, Text.Printable (if down then "down" else "up") ∧
      'F' ∉ (if down then "down" else "up" : String).toList := by decide
  have hhead : Names .lightpen "lightpen: detected at (".toList := by decide
  have hrepr := Text.printable_repr
  unfold sightingLine
  refine fine_of_names ?_ ?_ ?_
  · exact ((((((((hhead.append _).append _).append _).append _).append _).append _).append _).append
      _).append _
  · have hopen : Text.Printable "lightpen: detected at (" := by decide
    exact ((((((((hopen.append (hrepr _)).append (by decide)).append (hrepr _)).append
      (by decide)).append (hrepr _)).append (by decide)).append (hrepr _)).append
      (by decide)).append (htip _).1
  · simp only [String.toList_append, List.mem_append, not_or]
    exact ⟨⟨⟨⟨⟨⟨⟨⟨⟨by decide, hdigits _⟩, by decide⟩, hdigits _⟩, by decide⟩, hdigits _⟩,
      by decide⟩, hdigits _⟩, by decide⟩, (htip _).2⟩

theorem tells_setUp (chipset : Chipset) :
    let pen := Lightpen.new (.forChipset chipset)
    (pen.setUp.mapRemarks .note).Tells BusError.Legible fun outs failed _ =>
      Sound (.forChipset chipset) .lightpen outs failed true := by
  intro pen
  refine Program.Tells.mapRemarks ?_
  have hlatch : (pen.enableLatch : Attempt Note Unit).Silent BusError.Legible
      (Spares (.forChipset chipset) .lightpen) := Lightpen.silent_enableLatch ⟨rfl, rfl⟩
  refine Program.Tells.bind hlatch fun outs failed answer hanswer => ?_
  obtain rfl := hanswer.outs
  have hnote (note : Note) :
      Sound (.forChipset chipset) .lightpen [.note note] (failed ++ []) true := by
    rw [List.append_nil]
    exact sound_note note hanswer.region
  cases answer with
  | error cause => exact hnote (.latchRefused cause)
  | ok _ => exact hnote .latchEnabled

/-- The check of the pen, once the latch is enabled or not. -/
theorem tells_sense (chipset : Chipset) :
    (do
      match ← (Lightpen.new (.forChipset chipset)).sense.run with
      | .error cause =>
        print ("lightpen: FAILED (" ++ cause.message ++ ")")
        return false
      | .ok none =>
        print "lightpen: not detected"
        return true
      | .ok (some sighting) =>
        print (sightingLine sighting)
        return true : Program Output Bool).Tells BusError.Legible
      (Sound (.forChipset chipset) .lightpen) := by
  have hsense : ((Lightpen.new (.forChipset chipset)).sense :
      Attempt Output (Option PenSighting)).Silent BusError.Legible
      fun address => ¬Spares (.forChipset chipset) .lightpen address := by
    refine Lightpen.silent_sense ?_ ?_ ?_ ?_ <;>
      exact fun h => absurd h.2 (by cases chipset <;> decide)
  refine Program.Tells.bind hsense fun outs failed answer hanswer => ?_
  obtain rfl := hanswer.outs
  rcases answer with cause | none | sighting
  · obtain ⟨hcause, hmet⟩ := hanswer.refused cause rfl
    show Sound _ .lightpen [.line ("lightpen: FAILED (" ++ cause.message ++ ")")] (failed ++ [])
      false
    rw [List.append_nil]
    exact sound_failed hcause (by decide) (by decide) hmet hanswer.region
  · obtain rfl := hanswer.granted none rfl
    exact sound_fine (List.forall_mem_singleton.mpr
      (fine_of_names (by decide) (by decide) (by decide)))
  · obtain rfl := hanswer.granted (some sighting) rfl
    exact sound_fine (List.forall_mem_singleton.mpr (fine_sightingLine sighting))

theorem tells_checkLightpen (chipset : Chipset) :
    (checkLightpen (.forChipset chipset)).Tells BusError.Legible
      (Sound (.forChipset chipset) .lightpen) := by
  refine Program.Tells.bind (tells_setUp chipset) fun outs failed enabled hsetUp => ?_
  cases enabled with
  | true => exact (tells_sense chipset).imp fun _ _ _ h => hsetUp.append h
  | false =>
    refine Program.Tells.bind (tells_print _) fun _ _ _ hsaid => ?_
    obtain ⟨rfl, rfl⟩ := hsaid
    have hline : ∀ line ∈ ["lightpen: latch not enabled, continuing"], Fine .lightpen line :=
      List.forall_mem_singleton.mpr (fine_of_names (by decide) (by decide) (by decide))
    exact (tells_sense chipset).imp fun _ _ _ h => hsetUp.append ((sound_fine hline).append h)

end Diagnostics

end InputBridge
