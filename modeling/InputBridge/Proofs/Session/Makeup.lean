import InputBridge.Proofs.Device.Answers
import InputBridge.Proofs.Session.Wiring

/-!
# The makeup of the mouse

Ports and bound of the mouse come from the configuration and stay: polls change the states
of the ports and nothing else (`Mouse.poll_makeup`), and a session never replaces its mouse.
So whatever happened to a session, a mouse that is still in use is of the makeup that the
configuration asks for (`Session.makeup_steps`).
-/

namespace InputBridge

/-! ## Polls -/

namespace Mouse

theorem pollMotion_makeup (mouse : Mouse) (port : Port) :
    (mouse.pollMotion port).Within {} fun result => mouse.SameMakeup result.2 := by
  have hread : (mouse.readCounters port (ω := Remark)).Within {} fun result =>
      mouse.SameMakeup result.2 := by
    unfold readCounters
    split
    · exact Attempt.within_bind (Attempt.within_readWord trivial) fun _ _ =>
        Attempt.within_pure ((SameMakeup.refl mouse).setState ..)
    · exact Attempt.within_pure (SameMakeup.refl mouse)
  refine Program.within_bind hread fun answer hanswer => ?_
  cases answer with
  | error cause => exact Program.within_pure (SameMakeup.refl mouse)
  | ok result =>
    obtain ⟨moved, counted⟩ := result
    have hcounted : mouse.SameMakeup counted := hanswer _ rfl
    -- Which motion it is does not matter, so it is not computed.
    dsimp only
    unfold reportMotion
    generalize (counted.stateOf port).accumulate _ _ _ = accumulated
    obtain ⟨report, state⟩ := accumulated
    have hreport : ∀ after, mouse.SameMakeup after →
        (Program.remarks (motionRemarks port report state.pending) >>=
          fun _ => pure after).Within {} mouse.SameMakeup := fun _ h =>
      Program.within_bind (Program.within_true _) fun _ _ => Program.within_pure h
    exact Program.within_bind (hreport _ (hcounted.setState port state)) fun _ h =>
      Program.within_pure h

theorem pollButtons_makeup (mouse : Mouse) (port : Port) :
    (mouse.pollButtons port).Within {} fun result => mouse.SameMakeup result.2 := by
  refine Program.within_bind (Program.within_true _) fun answer _ => ?_
  cases answer with
  | error cause => exact Program.within_pure (SameMakeup.refl mouse)
  | ok buttons =>
    have hreport : (mouse.reportButtons port buttons).Within {} mouse.SameMakeup :=
      Program.within_bind (Program.within_true _) fun _ _ =>
        Program.within_pure ((SameMakeup.refl mouse).setState ..)
    exact Program.within_bind hreport fun _ h => Program.within_pure h

theorem pollPorts_makeup : ∀ (visits : List Port) (mouse : Mouse),
    (mouse.pollPorts visits).Within {} fun result => mouse.SameMakeup result.2
  | [], mouse => Program.within_pure (SameMakeup.refl mouse)
  | port :: rest, mouse => by
    refine Program.within_bind (mouse.pollMotion_makeup port) fun moved hmoved => ?_
    refine Program.within_bind (moved.2.pollButtons_makeup port) fun pressed hpressed => ?_
    refine Program.within_bind (pollPorts_makeup rest pressed.2) fun polled hpolled => ?_
    exact Program.within_pure ((hmoved.trans hpressed).trans hpolled)

/-- A poll changes nothing but the states of the ports. -/
theorem poll_makeup (mouse : Mouse) :
    mouse.poll.Within {} fun result => mouse.SameMakeup result.2 := by
  refine Program.within_bind (pollPorts_makeup mouse.ports mouse)
    fun (failure, polled) hpolled => ?_
  cases failure with
  | none => exact Program.within_pure hpolled
  | some cause => exact Program.within_pure hpolled

end Mouse

/-! ## Sessions -/

/-- The mouse that a configuration asks for, in whatever state. -/
structure Mouse.Asked (config : Config) (mouse : Mouse) : Prop where
  map_eq : mouse.map = .forChipset config.chipset
  ports_eq : mouse.ports = config.mousePorts
  maxDelta_eq : mouse.maxDelta = config.maxMouseDelta

theorem Mouse.Asked.sameMakeup {config : Config} {mouse after : Mouse} (h : mouse.Asked config)
    (hsame : mouse.SameMakeup after) : after.Asked config :=
  ⟨hsame.map_eq.trans h.map_eq, hsame.ports_eq.trans h.ports_eq,
    hsame.maxDelta_eq.trans h.maxDelta_eq⟩

/-- A mouse in use is the one that the configuration asks for. -/
def Devices.MouseAsked (config : Config) (devices : Devices) : Prop :=
  ∀ mouse ∈ devices.mouse, mouse.Asked config

namespace Devices.MouseAsked

variable {config : Config} {devices : Devices}

theorem ofConfig (config : Config) : (Devices.ofConfig config).MouseAsked config := by
  intro mouse hmouse
  rw [mouse_of_mem hmouse]
  exact ⟨rfl, rfl, rfl⟩

theorem scan (h : devices.MouseAsked config) :
    devices.scan.Within {} fun result => result.1.MouseAsked config := by
  have hpoll : ∀ mouse ∈ devices.mouse, mouse.poll.Within {} fun result =>
      result.2.Asked config := fun mouse hin =>
    mouse.poll_makeup.imp (fun _ hmoment => hmoment) fun _ hsame => (h mouse hin).sameMakeup hsame
  refine Program.within_bind (Program.within_true _) fun keyboard _ => ?_
  refine Program.within_bind (scanDevice_within hpoll).anywhere fun mouse hmouse => ?_
  refine Program.within_bind (Program.within_true _) fun lightpen _ => ?_
  exact Program.within_pure hmouse

end Devices.MouseAsked

namespace Session

variable {β σ : Type} [RegisterBus β] {config : Config} {session : Session β σ}

theorem makeup_start (h : session.devices.MouseAsked config) :
    session.start.value.2.devices.MouseAsked config :=
  fun mouse hmouse => h mouse (session.among_start.mouse mouse hmouse)

theorem makeup_step [EventSink σ] (h : session.devices.MouseAsked config) (next : Step β) :
    (session.step next).2.devices.MouseAsked config := by
  cases next with
  | start => exact makeup_start h
  | tick => exact h.scan.value_run session.bus
  | change f => exact h

/-- Whatever happens to a session, its mouse stays the one that was asked for. -/
theorem makeup_steps [EventSink σ] : ∀ (run : List (Step β)) {session : Session β σ},
    session.devices.MouseAsked config → (session.steps run).2.devices.MouseAsked config
  | [], _, h => h
  | next :: rest, _, h => makeup_steps rest (makeup_step h next)

end Session

end InputBridge
