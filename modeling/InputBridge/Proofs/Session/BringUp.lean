import InputBridge.Proofs.Session.SetUp
import InputBridge.Proofs.Session.Steps

/-!
# Bringing a session up

A start has five outcomes (`Started`): there is nothing to do, the configuration is
refused, the channel stays down, no device is left, or the session is ready. Only the last
two touch the devices. `BringUp` is what steps of any kind keep of a session and of the
answers that its starts have had so far: which devices are in use as long as no start got
to them, that a ready session has some, and what an earlier answer means for later ones.
`start_outcomes` is the whole contract.
-/

namespace InputBridge

/-! ## Devices in use -/

namespace Devices

theorem mem_active {devices : Devices} {device : Device} :
    device ∈ devices.active ↔ devices.inUse.get device = true := by
  unfold active
  rw [List.mem_filter]
  cases device <;> simp [Device.all]

theorem active_congr {devices devices' : Devices} (h : devices.inUse = devices'.inUse) :
    devices.active = devices'.active := by
  unfold active
  rw [h]

section Run

variable {β : Type} [RegisterBus β] (devices : Devices) (bus : β)

theorem isSome_scanDevice {δ ρ : Type} (device : Device)
    (poll : δ → Program Remark (Except BusError ρ × δ)) (state? : Option δ) (bus : β) :
    ((scanDevice device poll state?).run bus).value.1.isSome = state?.isSome := by
  cases state? with
  | none => rfl
  | some state =>
    unfold scanDevice
    rw [Program.run_bind]
    obtain ⟨answer, after⟩ := (((poll state).grouped device).run bus).value
    cases answer <;> rfl

/-- No device comes or goes in a scan. -/
theorem inUse_scan : (devices.scan.run bus).value.1.inUse = devices.inUse := by
  rw [scan_run]
  unfold inUse scanPointers
  rw [Program.run_bind, Program.run_bind, Program.run_pure]
  dsimp only
  rw [isSome_scanDevice, isSome_scanDevice, isSome_scanDevice]

/-- Setting up can only take devices out of use. -/
theorem inUse_of_setUp (device : Device)
    (h : (devices.setUp.run bus).value.inUse.get device = true) :
    devices.inUse.get device = true := by
  obtain ⟨hkeyboard, hmouse, hpen⟩ := devices.inUse_setUp bus
  cases device with
  | keyboard =>
    obtain ⟨keyboard, hin, _⟩ := hkeyboard.mp h
    exact Option.isSome_of_mem hin
  | mouse =>
    obtain ⟨mouse, hin, _⟩ := hmouse.mp h
    exact Option.isSome_of_mem hin
  | lightpen => exact hpen.symm.trans h

end Run

end Devices

namespace Session

variable {β σ : Type} [RegisterBus β]

/-! ## One start -/

/-- The session after its devices were set up on a bus. -/
def setUpOn (session : Session β σ) (bus : β) : Session β σ :=
  { session with
    bus := (session.devices.setUp.run bus).bus
    devices := (session.devices.setUp.run bus).value }

/-- What comes of a start. -/
inductive Started (session : Session β σ) : Except BridgeError Unit × Session β σ → Prop where
  /-- The session was ready before. -/
  | again (ready : session.ready = true) : Started session (.ok (), session)
  /-- The configuration is not valid. -/
  | refused (problem : ConfigError) (fresh : session.ready = false)
      (invalid : session.config.validate = .error problem) :
      Started session (.error (.config problem.message), session)
  /-- The channel stays down. -/
  | down (cause : BusError) (bus : β) (fresh : session.ready = false)
      (valid : session.config.validate = .ok ())
      (failed : RegisterBus.connect session.bus = (.error cause, bus)) :
      Started session (.error (.bus cause), { session with bus })
  /-- No device is left after setting them up. -/
  | none (bus : β) (fresh : session.ready = false) (valid : session.config.validate = .ok ())
      (connected : RegisterBus.connect session.bus = (.ok (), bus))
      (left : (session.setUpOn bus).devices.active = []) :
      Started session (.error .noDevices, session.setUpOn bus)
  /-- Some device is set up. -/
  | up (bus : β) (fresh : session.ready = false) (valid : session.config.validate = .ok ())
      (connected : RegisterBus.connect session.bus = (.ok (), bus))
      (left : (session.setUpOn bus).devices.active ≠ []) :
      Started session (.ok (), { session.setUpOn bus with ready := true })

theorem started (session : Session β σ) : Started session session.start.value := by
  unfold start
  by_cases hready : session.ready = true
  · rw [if_pos hready]
    exact .again hready
  rw [if_neg hready]
  have hfresh : session.ready = false := Bool.eq_false_iff.mpr hready
  cases hvalid : session.config.validate with
  | error problem => exact .refused problem hfresh hvalid
  | ok _ =>
    dsimp only
    rcases hconnect : RegisterBus.connect session.bus with ⟨answer, bus⟩
    cases answer with
    | error cause => exact .down cause bus hfresh hvalid hconnect
    | ok _ =>
      dsimp only
      split
      next hleft => exact .none bus hfresh hvalid hconnect hleft
      next hleft => exact .up bus hfresh hvalid hconnect hleft

section Outcomes

variable {session : Session β σ}

/-- A session that is ready is left alone. -/
theorem start_of_ready (h : session.ready = true) : session.start.value = (.ok (), session) := by
  unfold start
  rw [if_pos h]

theorem start_of_invalid {problem : ConfigError} (hfresh : session.ready = false)
    (hinvalid : session.config.validate = .error problem) :
    session.start.value = (.error (.config problem.message), session) := by
  unfold start
  rw [hfresh, hinvalid]
  rfl

theorem start_of_down {cause : BusError} {bus : β} (hfresh : session.ready = false)
    (hvalid : session.config.validate = .ok ())
    (hdown : RegisterBus.connect session.bus = (.error cause, bus)) :
    session.start.value = (.error (.bus cause), { session with bus }) := by
  unfold start
  rw [hfresh, hvalid, hdown]
  rfl

/-- Once the channel is up, what the devices are set up to decides. -/
theorem start_of_connected {bus : β} (hfresh : session.ready = false)
    (hvalid : session.config.validate = .ok ())
    (hup : RegisterBus.connect session.bus = (.ok (), bus)) :
    session.start.value.2.devices = (session.setUpOn bus).devices ∧
      session.start.value.1 =
        if (session.setUpOn bus).devices.active = [] then .error .noDevices else .ok () := by
  have hstarted := session.started
  generalize session.start.value = result at hstarted ⊢
  cases hstarted with
  | again hready => cases hfresh.symm.trans hready
  | refused problem _ hinvalid => cases hvalid.symm.trans hinvalid
  | down cause other _ _ hdown => cases hup.symm.trans hdown
  | none other _ _ hconnected hleft =>
    obtain ⟨_, rfl⟩ := Prod.mk.inj (hup.symm.trans hconnected)
    exact ⟨rfl, (if_pos hleft).symm⟩
  | up other _ _ hconnected hleft =>
    obtain ⟨_, rfl⟩ := Prod.mk.inj (hup.symm.trans hconnected)
    exact ⟨rfl, (if_neg hleft).symm⟩

end Outcomes

/-! ## Runs -/

/-- Did a start with this answer get to the devices? -/
def GotThrough (answer : Except BridgeError Unit) : Prop :=
  answer = .ok () ∨ answer = .error .noDevices

/-- What is known of a session after its starts had these answers. -/
structure BringUp (config : Config) (answers : List (Except BridgeError Unit))
    (session : Session β σ) : Prop where
  config_eq : session.config = config
  valid : session.ready = true → config.validate = .ok ()
  active : session.ready = true → session.devices.active ≠ []
  ready : .ok () ∈ answers → session.ready = true
  none_left : .error .noDevices ∈ answers → session.devices.active = []
  fresh : (∀ answer ∈ answers, ¬GotThrough answer) →
    session.ready = false ∧ session.devices.inUse = (Devices.ofConfig config).inUse

omit [RegisterBus β] in
theorem bringUp_new (bus : β) (sink : σ) (config : Config) :
    BringUp config [] (new bus sink config) where
  config_eq := rfl
  valid h := nomatch h
  active h := nomatch h
  ready h := nomatch h
  none_left h := nomatch h
  fresh _ := ⟨rfl, rfl⟩

section Kept

omit [RegisterBus β]

variable {config : Config} {answers : List (Except BridgeError Unit)} {session after : Session β σ}

/-- What does not get to the devices changes nothing of it. -/
theorem BringUp.idle (h : BringUp config answers session)
    {more : List (Except BridgeError Unit)} (hmore : ∀ answer ∈ more, ¬GotThrough answer)
    (hconfig : after.config = session.config) (hready : after.ready = session.ready)
    (hinUse : after.devices.inUse = session.devices.inUse) :
    BringUp config (answers ++ more) after := by
  have hactive : after.devices.active = session.devices.active := Devices.active_congr hinUse
  constructor
  case config_eq => exact hconfig.trans h.config_eq
  case valid => exact fun hnow => h.valid (hready.symm.trans hnow)
  case active => exact fun hnow => hactive ▸ h.active (hready.symm.trans hnow)
  case ready =>
    intro hok
    rcases List.mem_append.mp hok with hbefore | hlater
    · exact hready.trans (h.ready hbefore)
    · exact absurd (Or.inl rfl) (hmore _ hlater)
  case none_left =>
    intro hnone
    rcases List.mem_append.mp hnone with hbefore | hlater
    · exact hactive.trans (h.none_left hbefore)
    · exact absurd (Or.inr rfl) (hmore _ hlater)
  case fresh =>
    intro hall
    obtain ⟨hfresh, hused⟩ := h.fresh fun answer hin => hall answer (List.mem_append_left _ hin)
    exact ⟨hready.trans hfresh, hinUse.trans hused⟩

end Kept

theorem mem_of_mem_concat {α : Type} {entry last : α} {entries : List α}
    (h : entry ∈ entries ++ [last]) (hne : entry ≠ last) : entry ∈ entries :=
  (List.mem_append.mp h).resolve_right fun hlast => hne (List.mem_singleton.mp hlast)

theorem bringUp_start {config : Config} {answers : List (Except BridgeError Unit)}
    {session : Session β σ} (h : BringUp config answers session) :
    BringUp config (answers ++ [session.start.value.1]) session.start.value.2 := by
  have hstarted := session.started
  generalize session.start.value = result at hstarted ⊢
  have hmore : ∀ {answer : Except BridgeError Unit}, ¬GotThrough answer →
      ∀ other ∈ [answer], ¬GotThrough other :=
    fun hnot other hin => List.mem_singleton.mp hin ▸ hnot
  -- An answer that got through is among the answers from now on.
  have hlast : ∀ {answer : Except BridgeError Unit}, GotThrough answer →
      ¬∀ other ∈ answers ++ [answer], ¬GotThrough other :=
    fun hthrough hall => hall _ (List.mem_append_right _ (List.mem_singleton.mpr rfl)) hthrough
  cases hstarted with
  | again hready =>
    constructor
    case config_eq => exact h.config_eq
    case valid => exact h.valid
    case active => exact h.active
    case ready => exact fun _ => hready
    case none_left => exact fun hnone => h.none_left (mem_of_mem_concat hnone (by simp))
    case fresh => exact fun hall => absurd hall (hlast (Or.inl rfl))
  | refused problem _ _ =>
    exact h.idle (hmore fun hthrough => nomatch hthrough) rfl rfl rfl
  | down cause bus _ _ _ =>
    exact h.idle (hmore fun hthrough => nomatch hthrough) rfl rfl rfl
  | none bus hfresh hvalid _ hleft =>
    have hnever : ∀ {fact : Prop}, (session.setUpOn bus).ready = true → fact :=
      fun hready => nomatch hfresh.symm.trans hready
    constructor
    case config_eq => exact h.config_eq
    case valid => exact hnever
    case active => exact hnever
    case ready => exact fun hok => h.ready (mem_of_mem_concat hok (by simp))
    case none_left => exact fun _ => hleft
    case fresh => exact fun hall => absurd hall (hlast (Or.inr rfl))
  | up bus _ hvalid _ hleft =>
    constructor
    case config_eq => exact h.config_eq
    case valid => exact fun _ => h.config_eq ▸ hvalid
    case active => exact fun _ => hleft
    case ready => exact fun _ => rfl
    case none_left =>
      -- Where no device was left before, none can be left now.
      intro hnone
      have hbefore := h.none_left (mem_of_mem_concat hnone (by simp))
      refine absurd (List.eq_nil_iff_forall_not_mem.mpr fun device hin => ?_) hleft
      have hin' := Devices.mem_active.mpr
        (session.devices.inUse_of_setUp bus device (Devices.mem_active.mp hin))
      rw [hbefore] at hin'
      exact List.not_mem_nil hin'
    case fresh => exact fun hall => absurd hall (hlast (Or.inl rfl))

variable [EventSink σ]

theorem inUse_tick (session : Session β σ) :
    session.tick.value.devices.inUse = session.devices.inUse := session.devices.inUse_scan _

theorem bringUp_steps {config : Config} : ∀ (run : List (Step β))
    {answers : List (Except BridgeError Unit)} {session : Session β σ},
    BringUp config answers session →
      BringUp config (answers ++ (session.steps run).1) (session.steps run).2
  | [], answers, _, h => (List.append_nil answers).symm ▸ h
  | next :: rest, answers, session, h => by
    have hnext :
        BringUp config (answers ++ (session.step next).1.toList) (session.step next).2 := by
      cases next with
      | start => exact bringUp_start h
      | tick => exact h.idle (fun _ hin => nomatch hin) rfl rfl session.inUse_tick
      | change f => exact h.idle (fun _ hin => nomatch hin) rfl rfl rfl
    rw [steps_cons, ← List.append_assoc]
    exact bringUp_steps rest hnext

/-- No step brings a device back into use. -/
theorem inUse_step (session : Session β σ) (next : Step β) (device : Device)
    (h : (session.step next).2.devices.inUse.get device = true) :
    session.devices.inUse.get device = true := by
  cases next with
  | start =>
    have hstarted := session.started
    have hused : session.start.value.2.devices.inUse.get device = true := h
    generalize session.start.value = result at hstarted hused
    cases hstarted with
    | again => exact hused
    | refused => exact hused
    | down => exact hused
    | none bus => exact session.devices.inUse_of_setUp bus device hused
    | up bus => exact session.devices.inUse_of_setUp bus device hused
  | tick => exact session.inUse_tick ▸ h
  | change f => exact h

theorem active_steps : ∀ (run : List (Step β)) (session : Session β σ),
    ∀ device ∈ (session.steps run).2.devices.active, device ∈ session.devices.active
  | [], _, _, h => h
  | next :: rest, session, device, h => by
    have hnext := active_steps rest (session.step next).2 device h
    exact Devices.mem_active.mpr (session.inUse_step next device (Devices.mem_active.mp hnext))

/-- A session that is ready stays so. -/
theorem ready_step {session : Session β σ} (h : session.ready = true) (next : Step β) :
    (session.step next).2.ready = true := by
  cases next with
  | start =>
    show session.start.value.2.ready = true
    rw [start_of_ready h]
    exact h
  | tick => exact h
  | change f => exact h

theorem ready_steps : ∀ (run : List (Step β)) {session : Session β σ}, session.ready = true →
    (session.steps run).2.ready = true
  | [], _, h => h
  | next :: rest, _, h => ready_steps rest (ready_step h next)

omit [EventSink σ] in
theorem ready_of_start_ok {session : Session β σ} (h : session.start.value.1 = .ok ()) :
    session.start.value.2.ready = true := by
  have hstarted := session.started
  generalize session.start.value = result at hstarted h ⊢
  cases hstarted with
  | again hready => exact hready
  | refused => exact nomatch h
  | down => exact nomatch h
  | none => exact nomatch h
  | up => rfl

/-- After a start that succeeded a session is ready, whatever comes later. -/
theorem ready_of_ok_mem : ∀ (run : List (Step β)) {session : Session β σ},
    .ok () ∈ (session.steps run).1 → (session.steps run).2.ready = true
  | [], _, h => nomatch h
  | next :: rest, session, h => by
    rw [steps_cons] at h ⊢
    rcases List.mem_append.mp h with hnow | hlater
    · cases next with
      | start => exact ready_steps rest (ready_of_start_ok (List.mem_singleton.mp hnow).symm)
      | tick => exact nomatch hnow
      | change f => exact nomatch hnow
    · exact ready_of_ok_mem rest hlater

/-! ## On a register file -/

omit [RegisterBus β] [EventSink σ]

/-- A start that is the first to get to the devices, on a register file: the keyboard stays
if both its direction writes succeed, the mouse if its read and write do on the bus that
the keyboard leaves, and the pen in any case. In terms of the faults that are pending: the
keyboard uses up one that stands in the way of the mouse. -/
structure FirstStart (config : Config) (session : Session MemoryBus σ)
    (result : Except BridgeError Unit × Session MemoryBus σ) : Prop where
  keyboard : result.2.devices.inUse.keyboard = true ↔
    ∃ keyboard ∈ session.devices.keyboard, keyboard.CanSetUp session.bus
  keyboard_faults : result.2.devices.inUse.keyboard = true ↔
    config.keyboard = true ∧
      session.bus.writeFaultAt (RegisterMap.forChipset config.chipset).ciaaDdra = .next 0 ∧
      session.bus.writeFaultAt (RegisterMap.forChipset config.chipset).ciaaDdrb = .next 0
  mouse : result.2.devices.inUse.mouse = true ↔
    ∃ mouse ∈ session.devices.mouse, mouse.CanSetUp (session.devices.keyboardLeaves session.bus)
  mouse_faults : result.2.devices.inUse.mouse = true ↔
    (config.mouse = true ∧ config.mousePorts ≠ []) ∧
      session.bus.faultAt (RegisterMap.forChipset config.chipset).ciaaDdra = .next 0 ∧
      (if config.keyboard = true then
        (session.bus.writeFaultAt (RegisterMap.forChipset config.chipset).ciaaDdra).used
      else session.bus.writeFaultAt (RegisterMap.forChipset config.chipset).ciaaDdra) = .next 0
  lightpen : result.2.devices.inUse.lightpen = config.lightpen
  answer : result.1 = if result.2.devices.active = [] then .error .noDevices else .ok ()

theorem firstStart {config : Config} {session after : Session MemoryBus σ}
    {answer : Except BridgeError Unit}
    (hinUse : session.devices.inUse = (Devices.ofConfig config).inUse)
    (hwired : session.devices.Wired config.chipset)
    (hdevices : after.devices = (session.setUpOn session.bus).devices)
    (hanswer : answer = if after.devices.active = [] then .error .noDevices else .ok ()) :
    FirstStart config session (answer, after) := by
  obtain ⟨hkeyboard, hmouse, hpen⟩ := session.devices.inUse_setUp session.bus
  obtain ⟨hread, hwrite⟩ := hwired.faults_keyboardLeaves session.bus
  rw [Devices.inUse_ofConfig] at hinUse
  constructor
  case keyboard => rw [hdevices]; exact hkeyboard
  case keyboard_faults =>
    rw [hdevices]
    refine hkeyboard.trans ((hwired.keyboard_canSetUp_iff session.bus).trans ?_)
    rw [hinUse]
  case mouse => rw [hdevices]; exact hmouse
  case mouse_faults =>
    rw [hdevices]
    refine hmouse.trans ((hwired.mouse_canSetUp_iff _).trans ?_)
    rw [hread, hwrite, hinUse]
    simp
  case lightpen =>
    rw [hdevices]
    exact hpen.trans (congrArg PerDevice.lightpen hinUse)
  case answer => exact hanswer

/-- **Outcomes of a start.** A new session on a register file was driven by starts, ticks
and changes from outside, faults included, and is started once more.

With a configuration that is not valid, and with a channel that is down while the session is
not ready, the start says so and leaves the session as it is. As long as only such starts
came before, no device was dropped, and the first start to get to the devices keeps those
that can be set up. Once a start has succeeded, every other succeeds and does nothing; once
one has found no device, none succeeds. A session that is ready has devices in use, a tick
does not change which, and nothing brings one back. -/
theorem start_outcomes [EventSink σ] (bus : MemoryBus) (sink : σ) (config : Config)
    (run : List (Step MemoryBus)) :
    let answers := ((new bus sink config).steps run).1
    let session := ((new bus sink config).steps run).2
    (∀ problem, config.validate = .error problem →
        session.start.value = (.error (.config problem.message), session)) ∧
      (∀ reason, config.validate = .ok () → session.ready = false →
        session.bus.outage = some reason →
          session.start.value = (.error (.bus (.channelDown reason)), session)) ∧
      ((∀ answer ∈ answers, ¬GotThrough answer) →
        session.ready = false ∧ session.devices.inUse = (Devices.ofConfig config).inUse ∧
          (config.validate = .ok () → session.bus.outage = none →
            FirstStart config session session.start.value)) ∧
      (.ok () ∈ answers → session.start.value = (.ok (), session)) ∧
      (.error .noDevices ∈ answers → session.start.value.1 ≠ .ok ()) ∧
      (session.ready = true → session.devices.active ≠ []) ∧
      session.tick.value.devices.active = session.devices.active ∧
      ∀ later, ∀ device ∈ (session.steps later).2.devices.active,
        device ∈ session.devices.active := by
  intro answers session
  have hup : BringUp config answers session := bringUp_steps run (bringUp_new bus sink config)
  have hwired : session.devices.Wired config.chipset := wired_steps run (wired_new bus sink config)
  refine ⟨?invalid, ?down, ?first, ?again, ?none_left, hup.active,
    Devices.active_congr session.inUse_tick, fun later => session.active_steps later⟩
  case invalid =>
    intro problem hinvalid
    have hfresh : session.ready = false := by
      cases hready : session.ready with
      | false => rfl
      | true => cases hinvalid.symm.trans (hup.valid hready)
    exact start_of_invalid hfresh (hup.config_eq.symm ▸ hinvalid)
  case down =>
    intro reason hvalid hfresh hout
    have hdown : RegisterBus.connect session.bus =
        (.error (.channelDown reason), session.bus) := by
      show session.bus.connect = _
      unfold MemoryBus.connect
      rw [hout]
    exact start_of_down hfresh (hup.config_eq.symm ▸ hvalid) hdown
  case first =>
    intro hall
    obtain ⟨hfresh, hinUse⟩ := hup.fresh hall
    refine ⟨hfresh, hinUse, fun hvalid hout => ?_⟩
    have hconnect : RegisterBus.connect session.bus = (.ok (), session.bus) := by
      show session.bus.connect = _
      unfold MemoryBus.connect
      rw [hout]
    obtain ⟨hdevices, hanswer⟩ :=
      start_of_connected hfresh (hup.config_eq.symm ▸ hvalid) hconnect
    exact firstStart hinUse hwired hdevices (hdevices ▸ hanswer)
  case again => exact fun hok => start_of_ready (hup.ready hok)
  case none_left =>
    intro hnone hok
    have hafter : BringUp config (answers ++ [session.start.value.1]) session.start.value.2 :=
      bringUp_start hup
    rw [hok] at hafter
    have hready := hafter.ready (List.mem_append_right _ (List.mem_singleton.mpr rfl))
    exact hafter.active hready (hafter.none_left (List.mem_append_left _ hnone))

-- A single fault at the register that both need hits the keyboard and spares the mouse.
example : (new (({} : MemoryBus).failWrites (RegisterMap.forChipset .ocs).ciaaDdra (.next 1))
    ({} : RecordingSink) {}).start.value.2.devices.inUse = ⟨false, true, true⟩ := by decide

end Session

end InputBridge
