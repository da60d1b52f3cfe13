import InputBridge.Proofs.Diagnostics.Agreement
import InputBridge.Proofs.Session.Settling

/-!
# Nobody at the machine

On an idle machine nothing is to be found (`findings_idleMachine`), so a session on it has
nothing to say, however often it is ticked. What carries this through the ticks is `Idle`:
the registers read as nobody would leave them, and the devices are as they were made, but
for counters that were read (`Devices.Untouched`). The strobe of the keyboard writes to the
port of the fire lines in every tick; these are pins, and a tick leaves the pointers what it
found (`settled_tick`), so one tick keeps a session idle (`Idle.tick`) and any number does
(`Idle.ticked`).
-/

namespace InputBridge

open MemoryBus (SameOutside)

/-! ## What is found -/

/-- What is found if there is nothing to be found. -/
def Findings.nothing : Findings := ⟨.released, fun _ => 0, none⟩

/-- On an idle machine there is nothing to be found. -/
theorem findings_idleMachine (config : Config) :
    (idleMachine (.forChipset config.chipset)).findings config = .nothing := by
  have hmatrix : ∀ chipset : Chipset, (idleMachine (.forChipset chipset)).matrix
      (.new (.forChipset chipset) .standard) = .released := by
    intro chipset
    cases chipset <;> decide +kernel
  -- The pointers find the same, whether a keyboard has scanned or not.
  have hports : ∀ (chipset : Chipset) (port : Port),
      (idleMachine (.forChipset chipset)).buttonsAt (port.lines (.forChipset chipset)) = 0 ∧
        ((idleMachine (.forChipset chipset)).deselected
          (.new (.forChipset chipset) .standard)).buttonsAt
            (port.lines (.forChipset chipset)) = 0 := by
    intro chipset port
    cases chipset <;> cases port <;> decide +kernel
  have hpen : ∀ chipset : Chipset,
      (idleMachine (.forChipset chipset)).seenBy (.new (.forChipset chipset)) = none ∧
        ((idleMachine (.forChipset chipset)).deselected
          (.new (.forChipset chipset) .standard)).seenBy (.new (.forChipset chipset)) = none := by
    intro chipset
    cases chipset <;> decide +kernel
  unfold MemoryBus.findings MemoryBus.forPointers Findings.nothing
  rw [Findings.mk.injEq]
  by_cases hkeyboard : config.keyboard = true
  · simp only [if_pos hkeyboard]
    exact ⟨hmatrix _, funext fun port => (hports _ port).2, (hpen _).2⟩
  · simp only [if_neg hkeyboard]
    exact ⟨hmatrix _, funext fun port => (hports _ port).1, (hpen _).1⟩

/-- What the check prints if there is nothing to be found. -/
def quietLines (config : Config) : List String :=
  ("chipset: " ++ config.chipset.name) ::
    ((if config.keyboard then
        "keyboard: ok" ::
          (List.range rowCount).map fun row => "  row " ++ row.repr ++ ": 111111111  -"
      else []) ++
      (if config.mouse then
        config.mousePorts.map fun port => "mouse port " ++ port.index.repr ++ ": ok, buttons none"
      else []) ++
      (if config.lightpen then ["lightpen: not detected"] else []))

theorem Findings.lines_nothing (config : Config) :
    Findings.nothing.lines config = quietLines config := by
  have hrows : (List.range rowCount).map Findings.nothing.rowLine =
      (List.range rowCount).map fun row => "  row " ++ row.repr ++ ": 111111111  -" := by decide
  have hports : config.mousePorts.map Findings.nothing.portLine =
      config.mousePorts.map fun port =>
        "mouse port " ++ port.index.repr ++ ": ok, buttons none" := by
    refine List.map_congr_left fun port _ => ?_
    cases port <;> decide +kernel
  unfold Findings.lines quietLines
  rw [hrows, hports]
  rfl

/-! ## Devices that nobody touches -/

/-- With a positive bound, an axis that never moved has nothing to report. -/
theorem Axis.advance_new {bound : Int32} (hbound : 0 < bound) :
    ({} : Axis).advance 0 bound = (0, {}) := by
  have hreport : (({} : Axis).advance 0 bound).1 = 0 :=
    (Axis.report_eq_zero_iff hbound {}).mpr rfl
  have hafter : (({} : Axis).advance 0 bound).2 =
      { reported := (0 : Int32) + (({} : Axis).advance 0 bound).1 } := rfl
  rw [← Prod.mk.eta (p := ({} : Axis).advance 0 bound), hafter, hreport]
  rfl

/-- A visit of a port that nobody touches: no button is down, and the counters are read for
the first time or are as they were. Nothing is said. -/
theorem MouseState.visit_untouched (port : Port) (lines : PortLines) {bound : Int32}
    (hbound : 0 < bound) {bus : MemoryBus} {latched : Option (UInt8 × UInt8)}
    (hlatched : ∀ last ∈ latched, last = ((bus.steady lines.counters).toUInt8,
      (bus.steady lines.counters >>> 8).toUInt8))
    (hbuttons : bus.buttonsAt lines = 0) :
    ({ latched } : MouseState).visit port lines bound bus =
      ([], { latched := some ((bus.steady lines.counters).toUInt8,
        (bus.steady lines.counters >>> 8).toUInt8) }) := by
  have hlatch : ({ latched } : MouseState).latch (bus.steady lines.counters) =
      ((0, 0), { latched := some ((bus.steady lines.counters).toUInt8,
        (bus.steady lines.counters >>> 8).toUInt8) }) := by
    unfold latch
    cases latched with
    | none => rfl
    | some last =>
      obtain rfl := hlatched last rfl
      simp only [UInt8.sub_self]
      rfl
  have hzero : (0 : Int8).toInt32 = 0 := rfl
  unfold visit count accumulate
  simp only [hlatch, hzero, Axis.advance_new hbound, hbuttons]
  rfl

/-- Devices as they were made, but for counters that were read. -/
structure Devices.Untouched (devices : Devices) : Prop where
  keyboard : ∀ keyboard ∈ devices.keyboard, keyboard.held = .released
  mouse : ∀ mouse ∈ devices.mouse, ∀ port, ∃ latched, mouse.stateOf port = { latched }
  lightpen : ∀ pen ∈ devices.lightpen, pen.state = {}

theorem Devices.untouched_ofConfig (config : Config) : (Devices.ofConfig config).Untouched := by
  refine ⟨fun keyboard hin => ?_, fun mouse hin port => ?_, fun pen hin => ?_⟩
  · rw [keyboard_of_mem hin]
    rfl
  · rw [mouse_of_mem hin]
    exact ⟨none, by cases port <;> rfl⟩
  · rw [lightpen_of_mem hin]
    rfl

/-! ## Idle sessions -/

namespace Session

variable {σ : Type} {config : Config} {bus : MemoryBus} {session : Session MemoryBus σ}

/-- A session on a calm register file, in the state of `bus` for the pointers, on which its
untouched devices find nothing. -/
structure Idle (config : Config) (bus : MemoryBus) (session : Session MemoryBus σ) : Prop where
  asked : session.devices.MouseAsked config
  calm : session.bus.Calm
  unselected : SameOutside [] session.unselected bus
  untouched : session.devices.Untouched
  released : ∀ keyboard ∈ session.devices.keyboard, session.bus.matrix keyboard = .released
  latched : ∀ mouse ∈ session.devices.mouse, ∀ port ∈ mouse.ports,
    ∀ last ∈ (mouse.stateOf port).latched,
      last = ((bus.steady (port.lines mouse.map).counters).toUInt8,
        (bus.steady (port.lines mouse.map).counters >>> 8).toUInt8)
  up : ∀ mouse ∈ session.devices.mouse, ∀ port ∈ mouse.ports,
    bus.buttonsAt (port.lines mouse.map) = 0
  unseen : ∀ pen ∈ session.devices.lightpen, bus.seenBy pen = none

section Kept

variable (hbound : 0 < config.maxMouseDelta)

include hbound

/-- A visit of a port of an idle session. -/
theorem Idle.visit (h : session.Idle config bus) {mouse : Mouse}
    (hmouse : mouse ∈ session.devices.mouse) {port : Port} (hport : port ∈ mouse.ports) :
    ∃ latched, mouse.visit bus port = ([], { latched }) := by
  obtain ⟨latched, hstate⟩ := h.untouched.mouse mouse hmouse port
  have hlatched := h.latched mouse hmouse port hport
  rw [hstate] at hlatched
  unfold Mouse.visit
  rw [hstate, (h.asked mouse hmouse).maxDelta_eq]
  exact ⟨_, MouseState.visit_untouched port _ hbound hlatched (h.up mouse hmouse port hport)⟩

variable [EventSink σ] (hnodup : config.mousePorts.Nodup)

include hnodup

/-- No device of an idle session has anything to say. -/
theorem Idle.attempts_eq_nil (h : session.Idle config bus) : session.attempts = [] := by
  have htick := calmTick h.calm h.asked hnodup
  have hkeyboard : session.pollEvents .keyboard = [] := by
    rw [htick.keyboardEvents]
    cases hkeyboard : session.devices.keyboard with
    | none => rfl
    | some keyboard =>
      rw [Option.map_some, Option.getD_some, h.released keyboard hkeyboard,
        h.untouched.keyboard keyboard hkeyboard]
      exact List.filterMap_eq_nil_iff.mpr fun p _ => if_pos rfl
  have hmouse : session.pollEvents .mouse = [] := by
    rw [htick.mouseEvents]
    cases hmouse : session.devices.mouse with
    | none => rfl
    | some mouse =>
      rw [Option.map_some, Option.getD_some]
      refine List.flatMap_eq_nil_iff.mpr fun port hport => ?_
      obtain ⟨latched, hvisit⟩ := h.visit hbound hmouse hport
      rw [htick.ports mouse hmouse port hport, Mouse.visit_congr h.unselected, hvisit]
      rfl
  have hpen : session.pollEvents .lightpen = [] := by
    rw [htick.penEvents]
    cases hpen : session.devices.lightpen with
    | none => rfl
    | some pen =>
      have hseen : session.unselected.seenBy pen = bus.seenBy pen :=
        MemoryBus.seenBy_congr fun _ _ => h.unselected.steady_eq _
      rw [Option.map_some, Option.getD_some, hseen, h.unseen pen hpen,
        h.untouched.lightpen pen hpen]
      rfl
  rw [attempts_eq, group_eq, group_eq, group_eq, hkeyboard, hmouse, hpen]
  rfl

/-- A tick keeps a session idle. -/
theorem Idle.tick (h : session.Idle config bus) : session.tick.value.Idle config bus := by
  have htick := calmTick h.calm h.asked hnodup
  have hsettled := (settled_tick h.asked hnodup h.calm).congr h.unselected
  -- The keyboard holds what it has scanned, and would scan it again.
  have hheld : ∀ keyboard ∈ session.tick.value.devices.keyboard, keyboard.held = .released := by
    intro keyboard hkeyboard
    rw [htick.keyboardAfter] at hkeyboard
    obtain ⟨before, hbefore, rfl⟩ := Option.map_eq_some_iff.mp hkeyboard
    exact h.released before hbefore
  constructor
  case asked => exact hsettled.asked
  case calm => exact hsettled.calm
  case unselected => exact hsettled.unselected
  case untouched =>
    refine ⟨hheld, fun mouse hmouse port => ?_, fun pen hpen => ?_⟩
    · rw [htick.mouseAfter] at hmouse
      obtain ⟨before, hbefore, rfl⟩ := Option.map_eq_some_iff.mp hmouse
      by_cases hport : port ∈ before.ports
      · obtain ⟨latched, hvisit⟩ := h.visit hbound hbefore hport
        rw [before.stateOf_visited _ hport, Mouse.visit_congr h.unselected, hvisit]
        exact ⟨latched, rfl⟩
      · rw [before.stateOf_visited_of_notMem _ hport]
        exact h.untouched.mouse before hbefore port
    · rw [htick.penAfter] at hpen
      obtain ⟨before, hbefore, rfl⟩ := Option.map_eq_some_iff.mp hpen
      have hseen : session.unselected.seenBy before = bus.seenBy before :=
        MemoryBus.seenBy_congr fun _ _ => h.unselected.steady_eq _
      dsimp only
      rw [hseen, h.unseen before hbefore, h.untouched.lightpen before hbefore]
      rfl
  case released =>
    intro keyboard hkeyboard
    rw [hsettled.keyboard keyboard hkeyboard, hheld keyboard hkeyboard]
  case latched =>
    intro mouse hmouse port hport last hlast
    rw [(hsettled.ports mouse hmouse port hport).latched] at hlast
    exact (Option.some.inj hlast).symm
  case up =>
    intro mouse hmouse port hport
    rw [htick.mouseAfter] at hmouse
    obtain ⟨before, hbefore, rfl⟩ := Option.map_eq_some_iff.mp hmouse
    exact h.up before hbefore port hport
  case unseen =>
    intro pen hpen
    rw [htick.penAfter] at hpen
    obtain ⟨before, hbefore, rfl⟩ := Option.map_eq_some_iff.mp hpen
    exact h.unseen before hbefore

omit hbound hnodup

end Kept

variable [EventSink σ]

/-- What a tick of an idle session changes of the rest: one more tick is counted. -/
theorem Idle.rest_tick (hbound : 0 < config.maxMouseDelta) (hnodup : config.mousePorts.Nodup)
    (h : session.Idle config bus) :
    session.tick.value.sink = session.sink ∧
      session.tick.value.stats = { session.stats with ticks := session.stats.ticks + 1 } ∧
      session.tick.value.devices.inUse = session.devices.inUse := by
  have hsilent : session.signals.filterMap Signal.event? = [] := h.attempts_eq_nil hbound hnodup
  have hcount := deliver_count session.signals session.sink
  rw [hsilent, List.length_nil, Nat.add_eq_zero_iff] at hcount
  have hfailures : session.tick.value.stats.failures = session.stats.failures := by
    have hnone : ∀ device, session.tick.value.stats.failures.get device =
        session.stats.failures.get device := fun device => by
      rw [failures_tick, (calmTick h.calm h.asked hnodup).passes]
      rfl
    rw [PerDevice.mk.injEq]
    exact ⟨hnone .keyboard, hnone .mouse, hnone .lightpen⟩
  refine ⟨sink_deliver_of_silent _ session.sink hsilent, ?_, session.inUse_tick⟩
  show Stats.mk _ (_ + (deliver session.signals session.sink).delivered)
    (_ + (deliver session.signals session.sink).dropped) session.tick.value.stats.failures = _
  rw [hcount.1, hcount.2, hfailures]
  rfl

/-- Any number of ticks keeps a session idle, and counts nothing but themselves. -/
theorem Idle.ticked (hbound : 0 < config.maxMouseDelta) (hnodup : config.mousePorts.Nodup) :
    ∀ (count : Nat) {session : Session MemoryBus σ}, session.Idle config bus →
      (session.ticked count).Idle config bus ∧ (session.ticked count).sink = session.sink ∧
        (session.ticked count).stats =
          { session.stats with ticks := session.stats.ticks + count } ∧
        (session.ticked count).devices.inUse = session.devices.inUse
  | 0, _, h => ⟨h, rfl, rfl, rfl⟩
  | count + 1, session, h => by
    obtain ⟨hsink, hstats, hinUse⟩ := h.rest_tick hbound hnodup
    obtain ⟨hidle, hsink', hstats', hinUse'⟩ := ticked hbound hnodup count (h.tick hbound hnodup)
    refine ⟨hidle, hsink'.trans hsink, hstats'.trans ?_, hinUse'.trans hinUse⟩
    rw [hstats, Nat.add_assoc, Nat.add_comm 1 count]

/-! ## The idle machine -/

omit [EventSink σ] in
/-- A session that has just started on an idle machine is idle. -/
theorem idle_start (hdevices : session.devices = .ofConfig config)
    (hbus : MemoryBus.SetUpFrom (.forChipset config.chipset)
      (idleMachine (.forChipset config.chipset)) session.bus) :
    session.Idle config session.unselected := by
  have hfound := findings_idleMachine config
  have hstrobes := (MemoryBus.plain_idleMachine (.forChipset config.chipset)).strobes
  have hpointers := unselected_of_plain hdevices hbus
  constructor
  case asked => exact hdevices ▸ Devices.MouseAsked.ofConfig config
  case calm => exact hbus.calm
  case unselected => exact SameOutside.refl ..
  case untouched =>
    rw [hdevices]
    exact Devices.untouched_ofConfig config
  case released =>
    intro keyboard hkeyboard
    rw [hdevices] at hkeyboard
    have hreleased := congrArg Findings.snapshot hfound
    rw [Devices.keyboard_of_mem hkeyboard, hbus.matrix hstrobes]
    exact hreleased
  case latched =>
    intro mouse hmouse port _ last hlast
    rw [hdevices] at hmouse
    rw [Devices.mouse_of_mem hmouse] at hlast
    cases port <;> cases hlast
  case up =>
    intro mouse hmouse port _
    rw [hdevices] at hmouse
    rw [Devices.mouse_of_mem hmouse]
    exact (hpointers.buttonsAt hstrobes.forPointers port).trans
      (congrFun (congrArg Findings.buttons hfound) port)
  case unseen =>
    intro pen hpen
    rw [hdevices] at hpen
    rw [Devices.lightpen_of_mem hpen, hpointers.seenBy hstrobes.forPointers]
    exact congrArg Findings.pen hfound

/-- Each of the three devices is enough, but a mouse needs a port. -/
theorem active_ne_nil_of_enabled (h : config.keyboard = true ∨ config.lightpen = true ∨
    config.mouse = true ∧ config.mousePorts ≠ []) : (Devices.ofConfig config).active ≠ [] := by
  have hused : ∃ device, (Devices.ofConfig config).inUse.get device = true := by
    rw [Devices.inUse_ofConfig]
    rcases h with hkeyboard | hpen | ⟨hmouse, hports⟩
    · exact ⟨.keyboard, hkeyboard⟩
    · exact ⟨.lightpen, hpen⟩
    · exact ⟨.mouse, by simp [PerDevice.get, hmouse, hports]⟩
  obtain ⟨device, hdevice⟩ := hused
  exact List.ne_nil_of_mem (Devices.mem_active.mpr hdevice)

/-- **An idle machine is silent.** With a valid configuration that enables the keyboard, the
pen, or the mouse with a port, a session on an idle machine starts with all of these in use.
No tick attempts an event or counts a failure, and however many there were, the sink is as
it was and the devices are as they were made, but for counters that were read. The check
counts no failure there, and prints no key, no button and no pen. -/
theorem idle_machine_silent (hvalid : config.validate = .ok ())
    (henabled : config.keyboard = true ∨ config.lightpen = true ∨
      config.mouse = true ∧ config.mousePorts ≠ [])
    {writer : Writer} (hroom : writer.limit = none) (sink : σ) :
    let machine := idleMachine (.forChipset config.chipset)
    let started := (new machine sink config).start.value
    let report := Diagnostics.run config machine writer
    started.1 = .ok () ∧
      (∀ count, let session := started.2.ticked count
        session.devices.inUse =
            ⟨config.keyboard, config.mouse && !config.mousePorts.isEmpty, config.lightpen⟩ ∧
          session.attempts = [] ∧ session.sink = sink ∧ session.stats = { ticks := count } ∧
          session.devices.Untouched) ∧
      report.failed = .ok 0 ∧
      report.writer.text = writer.text ++ Diagnostics.printed (quietLines config) := by
  intro machine started report
  obtain ⟨-, hbound, hnodup, -⟩ := Config.validate_eq_ok_iff.mp hvalid
  have hplain : machine.Plain (.forChipset config.chipset) := MemoryBus.plain_idleMachine _
  have hactive : (Devices.ofConfig config).active ≠ [] := active_ne_nil_of_enabled henabled
  obtain ⟨hstarted, hdevices, hstats, hbus⟩ := start_of_active hvalid hactive hplain sink
  obtain ⟨hfailed, htext⟩ := Diagnostics.run_of_plain hplain hroom
  have hidle := idle_start hdevices hbus
  refine ⟨hstarted, fun count => ?_, hfailed, ?_⟩
  · obtain ⟨hafter, hsink, hcounted, hinUse⟩ := hidle.ticked hbound hnodup count
    refine ⟨?_, hafter.attempts_eq_nil hbound hnodup, ?_, ?_, hafter.untouched⟩
    · rw [hinUse, hdevices, Devices.inUse_ofConfig]
    · exact hsink.trans (start_rest (new machine sink config)).1
    · rw [hcounted, hstats, Nat.zero_add]
  · rw [htext, findings_idleMachine, Findings.lines_nothing]

/-- Only mice, on both ports, the second one first. -/
theorem idle_machine_silent_for_mice :
    let config : Config :=
      { chipset := .aga, mousePorts := [.port1, .port0], keyboard := false, lightpen := false }
    let started := (new (idleMachine (.forChipset .aga)) ({} : RecordingSink) config).start.value
    config.validate = .ok () ∧ config.mousePorts ≠ [] ∧ ({} : Writer).limit = none ∧
      started.1 = .ok () ∧ (∀ count, (started.2.ticked count).attempts = []) ∧
      (Diagnostics.run config (idleMachine (.forChipset .aga)) {}).writer.text =
        "" ++ Diagnostics.printed ["chipset: aga", "mouse port 1: ok, buttons none",
          "mouse port 0: ok, buttons none"] := by
  intro config started
  have hvalid : config.validate = .ok () := by decide
  have hports : config.mousePorts ≠ [] := by decide
  have hlines : quietLines config = ["chipset: aga", "mouse port 1: ok, buttons none",
      "mouse port 0: ok, buttons none"] := by decide +kernel
  obtain ⟨hstarted, hticks, -, htext⟩ := idle_machine_silent hvalid
    (Or.inr (Or.inr ⟨rfl, hports⟩)) (rfl : ({} : Writer).limit = none) ({} : RecordingSink)
  rw [hlines] at htext
  exact ⟨hvalid, hports, rfl, hstarted, fun count => (hticks count).2.1, htext⟩

end Session

end InputBridge
