import InputBridge.Proofs.Device.AtRest
import InputBridge.Proofs.Device.OnPlainBus
import InputBridge.Proofs.Diagnostics.Findings
import InputBridge.Proofs.Session.Accounts
import InputBridge.Proofs.Session.BringUp
import InputBridge.Proofs.Session.CalmTick

/-!
# The check and the first tick find the same

The check sets up one device after the other and reads each at once; a session sets up all
of them, and its first tick reads them. On a plain machine this makes no difference: both
find what `MemoryBus.findings` says of the registers before either of them started. The
check prints it (`yields_checkAll`), and the first tick of a session that was started on the
same machine reports it (`agrees_with_first_tick`).
-/

namespace InputBridge

open MemoryBus (SetUpFrom SameOutside)
open Program (Yields)

/-! ## What is found -/

/-- The register file as the pointers find it: an enabled keyboard has scanned it and left
no column selected. -/
def MemoryBus.forPointers (config : Config) (bus : MemoryBus) : MemoryBus :=
  if config.keyboard then bus.deselected (.new (.forChipset config.chipset) .standard) else bus

/-- What is found on a plain machine. -/
def MemoryBus.findings (config : Config) (bus : MemoryBus) : Findings where
  snapshot := bus.matrix (.new (.forChipset config.chipset) .standard)
  buttons port := (bus.forPointers config).buttonsAt (port.lines (.forChipset config.chipset))
  pen := (bus.forPointers config).seenBy (.new (.forChipset config.chipset))

theorem MemoryBus.OnlyRowsStrobed.forPointers {config : Config} {bus : MemoryBus}
    {map : RegisterMap} (h : bus.OnlyRowsStrobed map) :
    (bus.forPointers config).OnlyRowsStrobed map := by
  unfold MemoryBus.forPointers
  split <;> exact h

/-! ## The check -/

namespace Diagnostics

/-- The line that is put out, if it is one. -/
def Output.line? : Output → Option String
  | .line text => some text
  | .note _ => none

/-- Lines, each with its line end. -/
def printed (lines : List String) : String := String.join (lines.map (· ++ "\n"))

theorem printed_cons (line : String) (rest : List String) :
    printed (line :: rest) = line ++ "\n" ++ printed rest := by
  rw [← String.toList_inj]
  simp [printed, String.toList_join]

/-- The writer after some lines were printed to it. -/
def afterLines (writer : Writer) (lines : List String) : Writer :=
  { writer with text := writer.text ++ printed lines }

/-- A writer without limit takes all that is put out. -/
theorem feed_receive {α β : Type} [RegisterBus β] (program : Program Output α) :
    ∀ (bus : β) (writer : Writer) (notes : Array Note), writer.limit = none → ∃ notes',
      program.feed receive bus (writer, notes) =
        (.ok (program.run bus).value, (program.run bus).bus,
          (afterLines writer ((program.run bus).remarks.filterMap Output.line?), notes')) := by
  induction program with
  | done value =>
    intro bus writer notes _
    have hsame : afterLines writer [] = writer :=
      congrArg (fun text => { writer with text }) (String.append_empty ..)
    refine ⟨notes, ?_⟩
    show _ = (_, _, (afterLines writer [], notes))
    rw [hsame]
    rfl
  | read address width branch ih => exact fun bus writer notes h => ih _ _ writer notes h
  | write address width value branch ih => exact fun bus writer notes h => ih _ _ writer notes h
  | emit out rest ih =>
    intro bus writer notes hlimit
    cases out with
    | note note => exact ih bus writer (notes.push note) hlimit
    | line text =>
      have hreceive : receive (.line text) (writer, notes) =
          (.ok (), ({ writer with text := writer.text ++ (text ++ "\n") }, notes)) := by
        simp [receive, Writer.write, hlimit]
      obtain ⟨notes', hrest⟩ :=
        ih bus { writer with text := writer.text ++ (text ++ "\n") } notes hlimit
      refine ⟨notes', ?_⟩
      unfold Program.feed
      rw [hreceive]
      dsimp only
      rw [hrest]
      unfold afterLines
      dsimp only
      rw [String.append_assoc, ← printed_cons]
      rfl

section Checks

variable {chipset : Chipset} {bus : MemoryBus}
  (hstrobes : bus.OnlyRowsStrobed (.forChipset chipset))

include hstrobes

theorem yields_checkKeyboard :
    let keyboard := Keyboard.new (.forChipset chipset) .standard
    Yields (.forChipset chipset) bus (checkKeyboard (.forChipset chipset)) true
      (.line "keyboard: ok" ::
        (List.range rowCount).map fun row => .line (rowLine (bus.matrix keyboard) row))
      (bus.deselected keyboard) := by
  intro keyboard
  have hread : Yields (.forChipset chipset) bus
      (keyboard.setUp >>= fun _ => keyboard.scan : Attempt Output Snapshot).run
      (.ok (bus.matrix keyboard)) [] (bus.deselected keyboard) :=
    Keyboard.yields_setUp.attempt_bind (Keyboard.yields_scan hstrobes)
  refine hread.bind ?_
  refine (Program.yields_remark _).bind ((Program.yields_remarks _).bind ?_)
  exact Program.yields_pure _

theorem yields_checkPorts {mouse : Mouse} (hmap : mouse.map = .forChipset chipset) :
    ∀ visits : List Port, Yields (.forChipset chipset) bus (checkPorts mouse visits) true
      (visits.map fun port => .line ("mouse port " ++ port.index.repr ++ ": " ++ "ok, buttons " ++
        buttonNames (bus.buttonsAt (port.lines (.forChipset chipset))))) bus
  | [] => Program.yields_pure true
  | port :: rest => by
    refine (Mouse.yields_readButtons hstrobes hmap port).bind ?_
    exact (Program.yields_remark _).bind (yields_checkPorts hmap rest)

theorem yields_checkMouse (config : Config) :
    Yields (.forChipset chipset) bus (checkMouse config (.forChipset chipset)) true
      (config.mousePorts.map fun port => .line ("mouse port " ++ port.index.repr ++ ": " ++
        "ok, buttons " ++ buttonNames (bus.buttonsAt (port.lines (.forChipset chipset))))) bus := by
  have hsetUp : Yields (.forChipset chipset) bus (Mouse.new (.forChipset chipset)
      config.mousePorts config.maxMouseDelta).setUp.run (.ok ()) ([] : List Output) bus :=
    Mouse.yields_setUp rfl
  exact hsetUp.bind (yields_checkPorts hstrobes rfl config.mousePorts)

theorem yields_checkLightpen :
    Yields (.forChipset chipset) bus (checkLightpen (.forChipset chipset)) true
      [.note .latchEnabled,
        .line (Findings.penLine (bus.seenBy (.new (.forChipset chipset))))] bus := by
  have hsensed := Lightpen.yields_sense (ω := Output) hstrobes
  refine (Lightpen.yields_setUp.mapRemarks Output.note).bind ?_
  refine (hsensed.bind ?_ : Yields _ _ _ true _ bus)
  cases bus.seenBy (.new (.forChipset chipset)) with
  | none => exact (Program.yields_remark _).bind (Program.yields_pure _)
  | some sighting => exact (Program.yields_remark _).bind (Program.yields_pure _)

end Checks

/-- An enabled check that passes counts no failure, and a disabled one does nothing. -/
theorem yields_countIf {map : RegisterMap} {bus left : MemoryBus} {check : Program Output Bool}
    {outs : List Output} (enabled : Bool)
    (h : enabled = true → Yields map bus check true outs left) :
    Yields map bus (countIf enabled check) 0 (if enabled then outs else [])
      (if enabled then left else bus) := by
  cases enabled with
  | false => exact Program.yields_pure 0
  | true =>
    have hcounted : Yields map bus (countIf true check) 0 (outs ++ []) left :=
      (h rfl).bind (Program.yields_pure 0)
    rw [List.append_nil] at hcounted
    exact hcounted

/-- The check passes, and prints what is found. -/
theorem yields_checkAll {config : Config} {bus : MemoryBus}
    (hstrobes : bus.OnlyRowsStrobed (.forChipset config.chipset)) :
    ∃ outs left, Yields (.forChipset config.chipset) bus (checkAll config) 0 outs left ∧
      outs.filterMap Output.line? = (bus.findings config).lines config := by
  have hpointers : (bus.forPointers config).OnlyRowsStrobed (.forChipset config.chipset) :=
    hstrobes.forPointers
  have hkeyboard : Yields (.forChipset config.chipset) bus
      (countIf config.keyboard (checkKeyboard (.forChipset config.chipset))) 0 _
      (bus.forPointers config) :=
    yields_countIf config.keyboard fun _ => yields_checkKeyboard hstrobes
  have hmouse := yields_countIf config.mouse fun _ => yields_checkMouse hpointers config
  have hpen := yields_countIf config.lightpen fun _ => yields_checkLightpen hpointers
  rw [ite_self] at hmouse hpen
  refine ⟨_, _, (Program.yields_remark _).bind (hkeyboard.bind (hmouse.bind (hpen.bind
    (Program.yields_pure _)))), ?_⟩
  have hrows : ((List.range rowCount).map fun row => Output.line (rowLine (bus.matrix
      (.new (.forChipset config.chipset) .standard)) row)).filterMap Output.line? =
        (List.range rowCount).map (bus.findings config).rowLine := by
    rw [List.filterMap_map, ← List.filterMap_eq_map]
    exact List.filterMap_congr fun row _ => congrArg some ((bus.findings config).rowLine_eq row)
  have hports : (config.mousePorts.map fun port => Output.line ("mouse port " ++ port.index.repr ++
      ": " ++ "ok, buttons " ++ buttonNames ((bus.forPointers config).buttonsAt
        (port.lines (.forChipset config.chipset))))).filterMap Output.line? =
        config.mousePorts.map (bus.findings config).portLine := by
    rw [List.filterMap_map, ← List.filterMap_eq_map]
    exact List.filterMap_congr fun port _ => congrArg (fun names => some ("mouse port " ++
      port.index.repr ++ ": " ++ "ok, buttons " ++ names))
      ((bus.findings config).buttonNames_eq port)
  rw [List.filterMap_append, List.filterMap_append, List.filterMap_append, List.filterMap_append,
    apply_ite (List.filterMap Output.line?), apply_ite (List.filterMap Output.line?),
    apply_ite (List.filterMap Output.line?), List.filterMap_nil, List.append_nil, hports]
  unfold Findings.lines
  rw [List.append_assoc, ← hrows]
  rfl

/-- On a plain machine the check counts no failure and prints what is found. -/
theorem run_of_plain {config : Config} {bus : MemoryBus}
    (hplain : bus.Plain (.forChipset config.chipset)) {writer : Writer}
    (hroom : writer.limit = none) :
    (run config bus writer).failed = .ok 0 ∧
      (run config bus writer).writer.text =
        writer.text ++ printed ((bus.findings config).lines config) := by
  obtain ⟨outs, left, hyields, hlines⟩ := yields_checkAll hplain.strobes
  obtain ⟨after, hrun, -⟩ := hyields bus ⟨hplain.calm, SameOutside.refl ..⟩
  obtain ⟨notes, hfeed⟩ := feed_receive (checkAll config) bus writer #[] hroom
  rw [hrun, hlines] at hfeed
  unfold run
  rw [hplain.connect_eq]
  dsimp only
  rw [hfeed]
  exact ⟨rfl, rfl⟩

end Diagnostics

/-! ## The first tick -/

namespace Devices

variable {config : Config} {bus : MemoryBus}

theorem yields_keepIfSetUp {δ : Type} {map : RegisterMap} {setUp : δ → Attempt Note Unit}
    (device : Device) {state? : Option δ}
    (h : ∀ state ∈ state?, Yields map bus (setUp state).run (.ok ()) [] bus) :
    Yields map bus (keepIfSetUp device setUp state?) state? [] bus := by
  cases state? with
  | none => exact Program.yields_pure none
  | some state => exact (h state rfl).bind (Program.yields_pure (some state))

/-- On a plain machine every device is set up, and none is lost. -/
theorem Wired.yields_setUp {devices : Devices} {chipset : Chipset} (h : devices.Wired chipset)
    (bus : MemoryBus) :
    ∃ notes, Yields (.forChipset chipset) bus devices.setUp devices notes bus := by
  obtain ⟨keyboard, mouse, lightpen⟩ := devices
  have hkeyboard : Yields (.forChipset chipset) bus
      (keepIfSetUp .keyboard Keyboard.setUp keyboard) keyboard [] bus := by
    refine yields_keepIfSetUp .keyboard fun state hin => ?_
    obtain ⟨held, rfl⟩ := h.keyboard state hin
    exact Keyboard.yields_setUp
  have hmouse : Yields (.forChipset chipset) bus (keepIfSetUp .mouse Mouse.setUp mouse) mouse []
      bus := yields_keepIfSetUp .mouse fun state hin => Mouse.yields_setUp (h.mouse state hin)
  cases lightpen with
  | none => exact ⟨_, hkeyboard.bind (hmouse.bind (Program.yields_pure _))⟩
  | some pen =>
    obtain ⟨state, rfl⟩ := h.lightpen pen rfl
    have hlatch : Yields (.forChipset chipset) bus
        ({ Lightpen.new (.forChipset chipset) with state } : Lightpen).setUp true
        [.latchEnabled] bus := Lightpen.yields_setUp
    exact ⟨_, hkeyboard.bind (hmouse.bind (hlatch.bind (Program.yields_pure _)))⟩

end Devices

namespace Session

variable {σ : Type} {config : Config} {bus : MemoryBus}

/-- A valid configuration whose mouse has a port, if it has a mouse, leaves some device. -/
theorem active_ofConfig_ne_nil (hvalid : config.validate = .ok ())
    (hports : config.mouse = true → config.mousePorts ≠ []) :
    (Devices.ofConfig config).active ≠ [] := by
  obtain ⟨-, -, -, henabled⟩ := Config.validate_eq_ok_iff.mp hvalid
  intro hnone
  have hunused : ∀ device, (Devices.ofConfig config).inUse.get device ≠ true := by
    intro device hin
    rw [← Devices.mem_active, hnone] at hin
    exact List.not_mem_nil hin
  rw [Devices.inUse_ofConfig] at hunused
  have hkeyboard : config.keyboard ≠ true := hunused .keyboard
  have hmouse : (config.mouse && !config.mousePorts.isEmpty) ≠ true := hunused .mouse
  have hpen : config.lightpen ≠ true := hunused .lightpen
  simp only [Bool.or_eq_true] at henabled
  rcases henabled with (h | h) | h
  · exact hkeyboard h
  · exact hmouse (by simp [h, hports h])
  · exact hpen h

/-- A new session on a plain machine starts with all of its devices, if it has any. -/
theorem start_of_active (hvalid : config.validate = .ok ())
    (hactive : (Devices.ofConfig config).active ≠ [])
    (hplain : bus.Plain (.forChipset config.chipset)) (sink : σ) :
    let started := (new bus sink config).start.value
    started.1 = .ok () ∧ started.2.devices = .ofConfig config ∧ started.2.stats = {} ∧
      SetUpFrom (.forChipset config.chipset) bus started.2.bus := by
  obtain ⟨notes, hyields⟩ := (Devices.wired_ofConfig config).yields_setUp bus
  obtain ⟨after, hrun, hafter⟩ := hyields bus ⟨hplain.calm, SameOutside.refl ..⟩
  have hstart : (new bus sink config).start.value = (.ok (), { new bus sink config with
      bus := after, ready := true }) := by
    unfold start new
    dsimp only
    rw [if_neg Bool.false_ne_true, hvalid, hplain.connect_eq]
    dsimp only
    rw [hrun, if_neg hactive]
  intro started
  rw [show started = _ from hstart]
  exact ⟨rfl, rfl, rfl, hafter⟩

/-- A new session on a plain machine starts with every device that is enabled. -/
theorem start_of_plain (hvalid : config.validate = .ok ())
    (hports : config.mouse = true → config.mousePorts ≠ [])
    (hplain : bus.Plain (.forChipset config.chipset)) (sink : σ) :
    let started := (new bus sink config).start.value
    started.1 = .ok () ∧ started.2.devices = .ofConfig config ∧ started.2.stats = {} ∧
      SetUpFrom (.forChipset config.chipset) bus started.2.bus :=
  start_of_active hvalid (active_ofConfig_ne_nil hvalid hports) hplain sink

/-- The first visit of a port makes no move, since it only primes the counters, and reports
the buttons that are down. -/
theorem visit_new (port : Port) (lines : PortLines) {bound : Int32} (hbound : 0 < bound)
    (bus : MemoryBus) :
    (({} : MouseState).visit port lines bound bus).1.filterMap Remark.event? =
      buttonEdges (bus.buttonsAt lines ^^^ 0) (bus.buttonsAt lines) := by
  have hreport : (({} : Axis).advance 0 bound).1 = 0 :=
    (Axis.report_eq_zero_iff hbound {}).mpr rfl
  have hmotion : Mouse.motionRemarks port ((({} : Axis).advance 0 bound).1,
      (({} : Axis).advance 0 bound).1)
      (({} : MouseState).count (bus.steady lines.counters) bound).2.pending = [] := by
    rw [hreport]
    simp [Mouse.motionRemarks]
  show (Mouse.motionRemarks port ((({} : Axis).advance 0 bound).1,
    (({} : Axis).advance 0 bound).1) _ ++ (buttonEdges _ _).map Remark.event).filterMap _ = _
  rw [hmotion, List.nil_append, List.filterMap_map]
  exact List.filterMap_some

variable [EventSink σ]

theorem failures_tick (session : Session MemoryBus σ) (device : Device) :
    session.tick.value.stats.failures.get device =
      session.stats.failures.get device + (session.pollFails device).toNat := by
  show (session.stats.failures.zipWith _ _).get device = _
  rw [PerDevice.get_zipWith, scan_failed]

section FirstTick

variable {session : Session MemoryBus σ} (htick : session.CalmTick)
  (hdevices : session.devices = .ofConfig config)
  (hstrobes : bus.OnlyRowsStrobed (.forChipset config.chipset))
  (hbus : SetUpFrom (.forChipset config.chipset) bus session.bus)

include hdevices

omit [EventSink σ] in
theorem keyboard_ofConfig : session.devices.keyboard =
    if config.keyboard then some (.new (.forChipset config.chipset) .standard) else none :=
  congrArg Devices.keyboard hdevices

omit [EventSink σ] in
theorem mouse_ofConfig (hports : config.mouse = true → config.mousePorts ≠ []) :
    session.devices.mouse = if config.mouse then
      some (.new (.forChipset config.chipset) config.mousePorts config.maxMouseDelta)
      else none := by
  refine (congrArg Devices.mouse hdevices).trans ?_
  unfold Devices.ofConfig
  by_cases h : config.mouse = true
  · simp [h, hports h]
  · simp [h]

omit [EventSink σ] in
theorem lightpen_ofConfig : session.devices.lightpen =
    if config.lightpen then some (.new (.forChipset config.chipset)) else none :=
  congrArg Devices.lightpen hdevices

include hbus

omit [EventSink σ] in
/-- The pointers find what the check finds when it comes to them. -/
theorem unselected_of_plain :
    SetUpFrom (.forChipset config.chipset) (bus.forPointers config) session.unselected := by
  unfold unselected MemoryBus.forPointers
  rw [keyboard_ofConfig hdevices]
  by_cases h : config.keyboard = true
  · rw [if_pos h, if_pos h]
    exact ⟨hbus.calm.written, hbus.same.written ..⟩
  · rw [if_neg h, if_neg h]
    exact hbus

include htick hstrobes

theorem keyboard_of_plain : session.pollEvents .keyboard =
    if config.keyboard then (bus.findings config).keyEdges else [] := by
  rw [htick.keyboardEvents, keyboard_ofConfig hdevices]
  by_cases h : config.keyboard = true
  · rw [if_pos h, if_pos h, Option.map_some, Option.getD_some, hbus.matrix hstrobes]
    exact (bus.findings config).keyEdges_eq
  · rw [if_neg h, if_neg h]
    rfl

theorem ports_of_plain (hbound : 0 < config.maxMouseDelta) (hmouse : config.mouse = true) :
    ∀ port ∈ config.mousePorts, (session.portRemarks port).filterMap Remark.event? =
      (bus.findings config).buttonEdges port := by
  intro port hport
  have hin : Mouse.new (.forChipset config.chipset) config.mousePorts config.maxMouseDelta ∈
      session.devices.mouse := by
    rw [mouse_ofConfig hdevices fun _ => List.ne_nil_of_mem hport, if_pos hmouse]
    rfl
  rw [htick.ports _ hin port hport, ← (bus.findings config).buttonEdges_eq]
  have hbuttons : (bus.findings config).buttons port =
      session.unselected.buttonsAt (port.lines (.forChipset config.chipset)) :=
    ((unselected_of_plain hdevices hbus).buttonsAt hstrobes.forPointers port).symm
  rw [hbuttons, ← visit_new port (port.lines (.forChipset config.chipset)) hbound]
  cases port <;> rfl

theorem mouse_of_plain (hbound : 0 < config.maxMouseDelta)
    (hports : config.mouse = true → config.mousePorts ≠ []) :
    session.pollEvents .mouse =
      if config.mouse then config.mousePorts.flatMap (bus.findings config).buttonEdges
      else [] := by
  rw [htick.mouseEvents, mouse_ofConfig hdevices hports]
  by_cases h : config.mouse = true
  · rw [if_pos h, if_pos h, Option.map_some, Option.getD_some]
    exact List.flatMap_congr (ports_of_plain htick hdevices hstrobes hbus hbound h)
  · rw [if_neg h, if_neg h]
    rfl

theorem lightpen_of_plain : session.pollEvents .lightpen =
    if config.lightpen then (bus.findings config).penEvents else [] := by
  rw [htick.penEvents, lightpen_ofConfig hdevices]
  by_cases h : config.lightpen = true
  · rw [if_pos h, if_pos h, Option.map_some, Option.getD_some,
      (unselected_of_plain hdevices hbus).seenBy hstrobes.forPointers]
    exact (bus.findings config).penEvents_eq
  · rw [if_neg h, if_neg h]
    rfl

end FirstTick

/-- **The check and the first tick agree.** On a plain machine, with a valid configuration
whose mouse has a port if it has a mouse, the check and a new session that is started and
ticked once find the same. No device fails in either. The check prints the lines of what is
found, row by row and port by port, and the tick attempts the events of just that: a press
of each key that is held, a press of each button that is down, each on its port, and the
place of a pen that is seen, with a press of its tip if that is down. -/
theorem agrees_with_first_tick (hvalid : config.validate = .ok ())
    (hports : config.mouse = true → config.mousePorts ≠ [])
    (hplain : bus.Plain (.forChipset config.chipset)) {writer : Writer}
    (hroom : writer.limit = none) (sink : σ) :
    let report := Diagnostics.run config bus writer
    let started := (new bus sink config).start.value
    let session := started.2
    let found := bus.findings config
    report.failed = .ok 0 ∧ started.1 = .ok () ∧
      session.tick.value.stats.totalFailures = 0 ∧
      report.writer.text = writer.text ++ Diagnostics.printed (found.lines config) ∧
      session.group .keyboard = closed (if config.keyboard then found.keyEdges else []) ∧
      session.group .mouse = closed (if config.mouse then
        config.mousePorts.flatMap found.buttonEdges else []) ∧
      (config.mouse = true → ∀ port ∈ config.mousePorts,
        (session.portRemarks port).filterMap Remark.event? = found.buttonEdges port) ∧
      session.group .lightpen = closed (if config.lightpen then found.penEvents else []) := by
  intro report started session found
  obtain ⟨-, hbound, hnodup, -⟩ := Config.validate_eq_ok_iff.mp hvalid
  obtain ⟨hfailed, htext⟩ := Diagnostics.run_of_plain hplain hroom
  obtain ⟨hstarted, hdevices, hstats, hbus⟩ := start_of_plain hvalid hports hplain sink
  have hasked : session.devices.MouseAsked config :=
    hdevices ▸ Devices.MouseAsked.ofConfig config
  have htick := calmTick hbus.calm hasked hnodup
  refine ⟨hfailed, hstarted, ?_, htext, ?_, ?_, ?_, ?_⟩
  · have hnone : ∀ device, session.tick.value.stats.failures.get device = 0 := by
      intro device
      rw [failures_tick, htick.passes, hstats]
      cases device <;> rfl
    rw [totalFailures_eq]
    exact Nat.add_eq_zero_iff.mpr ⟨Nat.add_eq_zero_iff.mpr ⟨hnone .keyboard, hnone .mouse⟩,
      hnone .lightpen⟩
  · rw [group_eq, keyboard_of_plain htick hdevices hplain.strobes hbus]
  · rw [group_eq, mouse_of_plain htick hdevices hplain.strobes hbus hbound hports]
  · exact fun hmouse => ports_of_plain htick hdevices hplain.strobes hbus hbound hmouse
  · rw [group_eq, lightpen_of_plain htick hdevices hplain.strobes hbus]

/-- Somebody holds a key and the left button on an otherwise idle machine. -/
theorem agrees_on_held_key :
    let map := RegisterMap.forChipset .ocs
    let bus := ((idleMachine map).setStrobed map.rowSense (selectWord 1) 0x00FE).setLevel
      map.ciaaPra 0x00BF
    let session := (new bus ({} : RecordingSink) {}).start.value.2
    Config.validate {} = .ok () ∧ bus.Plain map ∧ ({} : Writer).limit = none ∧
      (Diagnostics.run {} bus {}).failed = .ok 0 ∧
      session.group .keyboard = closed (bus.findings {}).keyEdges := by
  intro map bus session
  have hvalid : Config.validate {} = .ok () := by decide
  have hplain : bus.Plain map := ((MemoryBus.plain_idleMachine map).setStrobed ..).setLevel ..
  have hroom : ({} : Writer).limit = none := rfl
  have hagrees := agrees_with_first_tick hvalid (by decide) hplain hroom ({} : RecordingSink)
  exact ⟨hvalid, hplain, hroom, hagrees.1, hagrees.2.2.2.2.1⟩

-- The key is the second one of the first row, and the port is the first one.
example :
    let map := RegisterMap.forChipset .ocs
    let bus := ((idleMachine map).setStrobed map.rowSense (selectWord 1) 0x00FE).setLevel
      map.ciaaPra 0x00BF
    (new bus ({} : RecordingSink) {}).start.value.2.attempts =
      [.key .f2 true, .sync, .button .left true, .sync] := by decide

end Session

end InputBridge
