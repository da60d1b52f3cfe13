import InputBridge.Proofs.Device.Pointers
import InputBridge.Proofs.Device.Reach
import InputBridge.Proofs.Session.Scan
import InputBridge.Proofs.Session.Steps

/-!
# The wiring of a session

The devices of a session are made for the register map of its chipset and keep it:
polls change snapshots, counters and the state of the pen, and setting up may only
drop a device. A new session is wired (`Session.wired_new`), each step keeps it so
(`wired_step`), and so every session that can be reached is wired (`wired_steps`).
-/

namespace InputBridge

/-- Devices for the machine with this chipset, in whatever state. -/
structure Devices.Wired (chipset : Chipset) (devices : Devices) : Prop where
  keyboard : ∀ keyboard ∈ devices.keyboard,
    ∃ held, keyboard = { Keyboard.new (.forChipset chipset) .standard with held }
  mouse : ∀ mouse ∈ devices.mouse, mouse.map = .forChipset chipset
  lightpen : ∀ pen ∈ devices.lightpen,
    ∃ state, pen = { Lightpen.new (.forChipset chipset) with state }

namespace Devices

section OfConfig

variable {config : Config}

/-- A keyboard that a configuration asks for is a new one. -/
theorem keyboard_of_mem {keyboard : Keyboard} (h : keyboard ∈ (ofConfig config).keyboard) :
    keyboard = .new (.forChipset config.chipset) .standard := by
  obtain ⟨-, hkeyboard⟩ := Option.ite_none_right_eq_some.mp h
  exact (Option.some.inj hkeyboard).symm

theorem mouse_of_mem {mouse : Mouse} (h : mouse ∈ (ofConfig config).mouse) :
    mouse = .new (.forChipset config.chipset) config.mousePorts config.maxMouseDelta := by
  obtain ⟨-, hmouse⟩ := Option.ite_none_right_eq_some.mp h
  exact (Option.some.inj hmouse).symm

theorem lightpen_of_mem {pen : Lightpen} (h : pen ∈ (ofConfig config).lightpen) :
    pen = .new (.forChipset config.chipset) := by
  obtain ⟨-, hpen⟩ := Option.ite_none_right_eq_some.mp h
  exact (Option.some.inj hpen).symm

theorem wired_ofConfig (config : Config) : (ofConfig config).Wired config.chipset where
  keyboard _ h := ⟨.released, keyboard_of_mem h⟩
  mouse _ h := by rw [mouse_of_mem h]; rfl
  lightpen _ h := ⟨{}, lightpen_of_mem h⟩

end OfConfig

variable {chipset : Chipset} {devices : Devices}

/-! ## Setting up -/

theorem keepIfSetUp_within {δ : Type} (device : Device) (setUp : δ → Attempt Note Unit)
    (state? : Option δ) :
    (keepIfSetUp device setUp state?).Within {} fun kept => ∀ state ∈ kept, state ∈ state? := by
  cases state? with
  | none => exact Program.within_pure fun _ h => h
  | some state =>
    refine Program.within_bind (Program.within_true _) fun answer _ => ?_
    cases answer with
    | ok _ => exact Program.within_pure fun _ h => h
    | error cause => exact ⟨trivial, fun _ h => absurd h (by simp)⟩

/-- Devices of which some may have been dropped, but never the pen. -/
structure Among (devices after : Devices) : Prop where
  keyboard : ∀ keyboard ∈ after.keyboard, keyboard ∈ devices.keyboard
  mouse : ∀ mouse ∈ after.mouse, mouse ∈ devices.mouse
  lightpen : after.lightpen = devices.lightpen

theorem Among.refl (devices : Devices) : devices.Among devices :=
  ⟨fun _ h => h, fun _ h => h, rfl⟩

theorem setUp_among (devices : Devices) : devices.setUp.Within {} devices.Among := by
  refine Program.within_bind (keepIfSetUp_within ..) fun keyboard hkeyboard => ?_
  refine Program.within_bind (keepIfSetUp_within ..) fun mouse hmouse => ?_
  have hamong : devices.Among { devices with keyboard, mouse } := ⟨hkeyboard, hmouse, rfl⟩
  split
  next => exact Program.within_pure hamong
  next => exact Program.within_bind (Program.within_true _) fun _ _ => Program.within_pure hamong

theorem Wired.among {after : Devices} (h : devices.Wired chipset) (hamong : devices.Among after) :
    after.Wired chipset where
  keyboard keyboard hin := h.keyboard keyboard (hamong.keyboard keyboard hin)
  mouse mouse hin := h.mouse mouse (hamong.mouse mouse hin)
  lightpen := hamong.lightpen ▸ h.lightpen

/-! ## Scanning -/

theorem Wired.scan_keyboard (h : devices.Wired chipset) :
    (scanDevice .keyboard Keyboard.poll devices.keyboard).Within {} fun result =>
      ∀ keyboard ∈ result.1,
        ∃ held, keyboard = { Keyboard.new (.forChipset chipset) .standard with held } := by
  have hpoll : ∀ keyboard ∈ devices.keyboard, keyboard.poll.Within {} fun result =>
      ∃ held, result.2 = { Keyboard.new (.forChipset chipset) .standard with held } := by
    intro keyboard hin
    refine keyboard.poll_within.imp (fun moment _ => moment.allows_all) fun result hresult => ?_
    obtain ⟨held, hheld⟩ := hresult
    obtain ⟨before, rfl⟩ := h.keyboard keyboard hin
    exact ⟨held, hheld⟩
  exact (scanDevice_within hpoll).anywhere

theorem Wired.scan_mouse (h : devices.Wired chipset) :
    (scanDevice .mouse Mouse.poll devices.mouse).Within {} fun result =>
      ∀ mouse ∈ result.1, mouse.map = .forChipset chipset := by
  have hpoll : ∀ mouse ∈ devices.mouse, mouse.poll.Within {} fun result =>
      result.2.map = .forChipset chipset := by
    intro mouse hin
    have hheeds : mouse.Heeds chipset mouse.reads := ⟨h.mouse mouse hin, fun _ hread => hread⟩
    exact (Mouse.poll_alike hheeds).within.imp (fun moment _ => moment.allows_all)
      fun _ hafter => hafter.map_eq
  exact (scanDevice_within hpoll).anywhere

theorem Wired.scan_lightpen (h : devices.Wired chipset) :
    (scanDevice .lightpen Lightpen.poll devices.lightpen).Within {} fun result =>
      ∀ pen ∈ result.1, ∃ state, pen = { Lightpen.new (.forChipset chipset) with state } := by
  have hpoll : ∀ pen ∈ devices.lightpen, pen.poll.Within {} fun result =>
      ∃ state, result.2 = { Lightpen.new (.forChipset chipset) with state } := by
    intro pen hin
    have hheeds : pen.Heeds chipset pen.reads := ⟨h.lightpen pen hin, fun _ hread => hread⟩
    exact (Lightpen.poll_alike hheeds).within.imp (fun moment _ => moment.allows_all)
      fun _ hafter => hafter.made
  exact (scanDevice_within hpoll).anywhere

theorem Wired.scan (h : devices.Wired chipset) :
    devices.scan.Within {} fun result => result.1.Wired chipset := by
  refine Program.within_bind h.scan_keyboard fun (keyboard, _) hkeyboard => ?_
  refine Program.within_bind h.scan_mouse fun (mouse, _) hmouse => ?_
  refine Program.within_bind h.scan_lightpen fun (lightpen, _) hlightpen => ?_
  exact Program.within_pure ⟨hkeyboard, hmouse, hlightpen⟩

end Devices

/-! ## Sessions -/

namespace Session

variable {β σ : Type}

theorem wired_new (bus : β) (sink : σ) (config : Config) :
    (new bus sink config).devices.Wired config.chipset := Devices.wired_ofConfig config

/-- Whatever comes of a start, it changes no device that it does not drop. -/
theorem among_start [RegisterBus β] (session : Session β σ) :
    session.devices.Among session.start.value.2.devices := by
  unfold start
  split
  next => exact .refl _
  next =>
    split
    next => exact .refl _
    next =>
      split
      next => exact .refl _
      next bus _ =>
        have hset := session.devices.setUp_among.value_run bus
        dsimp only
        split <;> exact hset

theorem wired_start [RegisterBus β] {session : Session β σ} {chipset : Chipset}
    (h : session.devices.Wired chipset) : session.start.value.2.devices.Wired chipset :=
  h.among session.among_start

theorem wired_tick [RegisterBus β] [EventSink σ] {session : Session β σ} {chipset : Chipset}
    (h : session.devices.Wired chipset) : session.tick.value.devices.Wired chipset :=
  h.scan.value_run session.bus

theorem wired_step [RegisterBus β] [EventSink σ] {session : Session β σ} {chipset : Chipset}
    (h : session.devices.Wired chipset) (next : Step β) :
    (session.step next).2.devices.Wired chipset := by
  cases next with
  | start => exact wired_start h
  | tick => exact wired_tick h
  | change f => exact h

theorem wired_steps [RegisterBus β] [EventSink σ] {chipset : Chipset} :
    ∀ (run : List (Step β)) {session : Session β σ}, session.devices.Wired chipset →
      (session.steps run).2.devices.Wired chipset
  | [], _, h => h
  | next :: rest, _, h => wired_steps rest (wired_step h next)

end Session

end InputBridge
