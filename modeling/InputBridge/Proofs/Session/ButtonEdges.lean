import InputBridge.IdleMachine
import InputBridge.Proofs.Device.ButtonBits
import InputBridge.Proofs.Session.CalmTick
import InputBridge.Proofs.Session.Sinks

/-!
# Presses and releases of mouse buttons

Each port keeps its own buttons, and a visit reports how they changed. So port by port the
edges of a button take turns, on any bus and whatever else happens to the session: that the
edges so far do, and that the last one is where the button is now (`Turns`), is kept by
every step. The events do not say which port it was. What a host sees is the edges of all
ports after another (`edges_attempts`), and with two mice that is not in turn
(`merged_edges_repeat`).
-/

namespace InputBridge

/-- The buttons of a mouse, as events name them. -/
def Button.OfMouse (button : Button) : Prop :=
  button = .left ∨ button = .right ∨ button = .middle

theorem Button.OfMouse.exists_bit {button : Button} (h : button.OfMouse) :
    ∃ bit, (bit, button) ∈ mouseButtons := by
  rcases h with rfl | rfl | rfl
  · exact ⟨leftBit, by simp [mouseButtons]⟩
  · exact ⟨rightBit, by simp [mouseButtons]⟩
  · exact ⟨middleBit, by simp [mouseButtons]⟩

/-- Edges of the buttons of a mouse are reported by the mouse only. -/
theorem Button.OfMouse.eq_mouse {button : Button} (h : button.OfMouse) {device : Device}
    {pressed : Bool} (hreports : device.Reports (.button button pressed)) : device = .mouse := by
  cases device with
  | keyboard => exact hreports.elim
  | mouse => rfl
  | lightpen =>
    rcases h with rfl | rfl | rfl <;> rcases hreports with hpen | hpen <;> cases hpen

theorem Button.edges_closed (button : Button) (events : List Event) :
    button.edges (closed events) = button.edges events := by
  unfold closed
  split
  next hnone => rw [hnone]
  next => rw [edges_append]; exact List.append_nil _

namespace Session

variable {β σ : Type} [RegisterBus β] {config : Config} {session : Session β σ}

/-- The events of a port in the next tick. -/
def portEvents (session : Session β σ) (port : Port) : List Event :=
  (session.portRemarks port).filterMap Remark.event?

/-- The poll of the mouse in a tick: a visit of each port, all of which is said of it. -/
theorem mousePoll_heard (hasked : session.devices.MouseAsked config)
    (hnodup : config.mousePorts.Nodup) {mouse : Mouse}
    (hmouse : session.devices.mouse = some mouse) :
    ∃ heard : Port → Heard, ∃ after,
      session.mousePoll.map Polled.after = some after ∧
        mouse.Told heard config.mousePorts after ∧
        (∀ port ∈ config.mousePorts,
          session.portRemarks port = (mouse.hear port (heard port)).1) ∧
        session.pollEvents .mouse = config.mousePorts.flatMap session.portEvents := by
  obtain ⟨hmap, hports, -⟩ := hasked mouse hmouse
  have hnodup' : mouse.ports.Nodup := hports ▸ hnodup
  obtain ⟨htold, -⟩ := Mouse.poll_visits hnodup' (busAfter session.bus session.keyboardPoll)
  obtain ⟨hremarks, hsaid⟩ := Mouse.poll_heard hmap hnodup'
    (busAfter session.bus session.keyboardPoll)
  have hpoll : session.mousePoll =
      some (pollOnce Mouse.poll mouse (busAfter session.bus session.keyboardPoll)) := by
    unfold mousePoll pollInUse
    rw [hmouse, Option.map_some]
  rw [hports] at hremarks htold
  have hheard : ∀ port ∈ config.mousePorts, session.portRemarks port =
      (mouse.hear port (mouse.heardIn (busAfter session.bus session.keyboardPoll) port)).1 := by
    intro port hport
    unfold portRemarks
    rw [hpoll, Option.map_some, Option.getD_some]
    have hport' := hsaid port
    rw [hports, if_pos hport, ← hmap] at hport'
    exact hport'
  refine ⟨_, _, by rw [hpoll]; rfl, htold, hheard, ?_⟩
  unfold pollEvents
  rw [hpoll, Option.map_some, Option.getD_some]
  unfold Polled.events portEvents
  rw [hremarks, List.filterMap_flatMap]
  exact List.flatMap_congr fun port hport => by rw [hheard port hport]

/-- Without a mouse nothing is said of any port. -/
theorem portEvents_of_none (hnone : session.devices.mouse = none) (port : Port) :
    session.portEvents port = [] := by
  unfold portEvents portRemarks mousePoll pollInUse
  rw [hnone]
  rfl

/-! ## One port -/

/-- The edges of a button on a port so far, of a session as it is now: they take turns, and
the last one is where the button is. -/
structure Turns (port : Port) (bit : UInt8) (edges : List Bool) (session : Session β σ) :
    Prop where
  alternates : Alternates edges
  last : ∀ mouse ∈ session.devices.mouse,
    edges.getLastD false = (mouse.stateOf port).isDown bit

omit [RegisterBus β] in
theorem turns_new (bus : β) (sink : σ) (config : Config) (port : Port) (bit : UInt8) :
    Turns port bit [] (new bus sink config) where
  alternates := .nil false
  last mouse hmouse := by
    rw [Devices.mouse_of_mem hmouse]
    cases port <;> simp [MouseState.isDown, Mouse.new, Mouse.stateOf]

variable [EventSink σ] {port : Port} {bit : UInt8} {button : Button} {edges : List Bool}

/-- A tick adds at most one edge, to where the button is after it. -/
theorem Turns.tick (h : session.Turns port bit edges) (hbutton : (bit, button) ∈ mouseButtons)
    (hasked : session.devices.MouseAsked config) (hnodup : config.mousePorts.Nodup)
    (hport : port ∈ config.mousePorts) :
    session.tick.value.Turns port bit (edges ++ button.edges (session.portEvents port)) := by
  have hdevices := congrArg Devices.mouse session.tick_parts.1
  cases hmouse : session.devices.mouse with
  | none =>
    have hnone : session.mousePoll = none := by
      unfold mousePoll pollInUse
      rw [hmouse, Option.map_none]
    rw [portEvents_of_none hmouse]
    refine ⟨(List.append_nil edges).symm ▸ h.alternates, fun mouse hin => ?_⟩
    rw [hdevices, hnone] at hin
    cases hin
  | some mouse =>
    obtain ⟨heard, after, hafter, htold, hheard, -⟩ := mousePoll_heard hasked hnodup hmouse
    have hedges : button.edges (session.portEvents port) =
        if (after.stateOf port).isDown bit = (mouse.stateOf port).isDown bit then []
        else [(after.stateOf port).isDown bit] := by
      unfold portEvents
      rw [hheard port hport, htold.visited port hport]
      exact MouseState.edges_hear hbutton _ port _ _
    obtain ⟨halternates, hlast⟩ :=
      h.alternates.follow (h.last mouse hmouse) ((after.stateOf port).isDown bit)
    rw [hedges]
    refine ⟨halternates, fun other hother => ?_⟩
    rw [hdevices, hafter] at hother
    rw [← Option.some.inj hother]
    exact hlast

omit [EventSink σ] in
/-- A start moves no button, and may only take the mouse out of use. -/
theorem Turns.start (h : session.Turns port bit edges) :
    session.start.value.2.Turns port bit edges where
  alternates := h.alternates
  last mouse hmouse := h.last mouse (session.among_start.mouse mouse hmouse)

/-- What one step keeps, a run keeps: the edges of its ticks are added one after the other. -/
theorem turns_steps (hbutton : (bit, button) ∈ mouseButtons) (hnodup : config.mousePorts.Nodup)
    (hport : port ∈ config.mousePorts) : ∀ (run : List (Step β)) {session : Session β σ}
    {edges : List Bool}, session.devices.MouseAsked config → session.Turns port bit edges →
      (session.steps run).2.Turns port bit (edges ++ (session.beforeTicks run).flatMap fun before =>
        button.edges (before.portEvents port))
  | [], _, edges, _, h => (List.append_nil edges).symm ▸ h
  | .tick :: rest, session, edges, hasked, h => by
    have hrest := turns_steps hbutton hnodup hport rest (makeup_step hasked .tick)
      (h.tick hbutton hasked hnodup hport)
    rw [List.append_assoc] at hrest
    exact hrest
  | .start :: rest, session, _, hasked, h =>
    turns_steps hbutton hnodup hport rest (makeup_start hasked) h.start
  | .change f :: rest, session, _, hasked, h =>
    turns_steps hbutton hnodup hport rest (makeup_step hasked (.change f)) ⟨h.alternates, h.last⟩

/-! ## All ports together -/

omit [EventSink σ] in
/-- What a host sees of a button in a tick are the edges of each port, in the order of the
ports. -/
theorem edges_attempts (hbutton : button.OfMouse) (hasked : session.devices.MouseAsked config)
    (hnodup : config.mousePorts.Nodup) :
    button.edges session.attempts =
      config.mousePorts.flatMap fun port => button.edges (session.portEvents port) := by
  have hothers : ∀ device, device ≠ .mouse → button.edges (session.pollEvents device) = [] := by
    intro device hdevice
    refine Button.edges_eq_nil fun pressed hin => hdevice ?_
    exact hbutton.eq_mouse (session.reports_pollEvents device _ hin)
  rw [attempts_eq, group_eq, group_eq, group_eq, Button.edges_append, Button.edges_append,
    Button.edges_closed, Button.edges_closed, Button.edges_closed,
    hothers .keyboard (by decide), hothers .lightpen (by decide), List.nil_append,
    List.append_nil]
  cases hmouse : session.devices.mouse with
  | none =>
    have hpoll : session.pollEvents .mouse = [] := by
      unfold pollEvents mousePoll pollInUse
      rw [hmouse]
      rfl
    rw [hpoll, List.flatMap_eq_nil_iff.mpr fun port _ => by rw [portEvents_of_none hmouse]; rfl]
    rfl
  | some mouse =>
    obtain ⟨-, -, -, -, -, hpoll⟩ := mousePoll_heard hasked hnodup hmouse
    rw [hpoll, Button.edges_flatMap]

theorem asked_beforeTicks : ∀ (run : List (Step β)) {session : Session β σ},
    session.devices.MouseAsked config →
      ∀ before ∈ session.beforeTicks run, before.devices.MouseAsked config
  | [], _, _, _, hin => nomatch hin
  | .tick :: rest, session, h, before, hin => by
    rcases List.mem_cons.mp hin with rfl | hrest
    · exact h
    · exact asked_beforeTicks rest (makeup_step h .tick) before hrest
  | .start :: rest, _, h, before, hin => asked_beforeTicks rest (makeup_start h) before hin
  | .change f :: rest, _, h, before, hin =>
    asked_beforeTicks rest (makeup_step h (.change f)) before hin

/-- Only ticks attempt anything. -/
theorem attemptsOver_eq_flatMap : ∀ (run : List (Step β)) (session : Session β σ),
    session.attemptsOver run = (session.beforeTicks run).flatMap attempts
  | [], _ => rfl
  | .tick :: rest, session =>
    congrArg (session.attempts ++ ·) (attemptsOver_eq_flatMap rest session.tick.value)
  | .start :: rest, session => attemptsOver_eq_flatMap rest session.start.value.2
  | .change f :: rest, session => attemptsOver_eq_flatMap rest (session.step (.change f)).2

/-- **Presses and releases take turns on each port.** Whatever the bus answers, and however
starts, ticks and changes of the bus follow each other, the edges of a button of the mouse
on one port alternate, starting with a press. In each tick the host is told those of all
ports, port by port; so if at most one port is listed, what the host is told of the button
alternates too. -/
theorem button_edges_take_turns (hvalid : config.validate = .ok ()) (bus : β) (sink : σ)
    (run : List (Step β)) (hbutton : button.OfMouse) :
    let session := new bus sink config
    let ticked := session.beforeTicks run
    (∀ port ∈ config.mousePorts,
        Alternates (ticked.flatMap fun before => button.edges (before.portEvents port))) ∧
      (∀ before ∈ ticked, button.edges before.attempts =
        config.mousePorts.flatMap fun port => button.edges (before.portEvents port)) ∧
      button.edges (session.attemptsOver run) =
        (ticked.flatMap fun before => button.edges before.attempts) ∧
      (config.mousePorts.length ≤ 1 → Alternates (button.edges (session.attemptsOver run))) := by
  intro session ticked
  obtain ⟨-, -, hnodup, -⟩ := Config.validate_eq_ok_iff.mp hvalid
  have hasked : session.devices.MouseAsked config := Devices.MouseAsked.ofConfig config
  have hports : ∀ port ∈ config.mousePorts,
      Alternates (ticked.flatMap fun before => button.edges (before.portEvents port)) := by
    intro port hport
    obtain ⟨bit, hbit⟩ := hbutton.exists_bit
    exact (turns_steps hbit hnodup hport run hasked (turns_new bus sink config port bit)).alternates
  have hticks : ∀ before ∈ ticked, button.edges before.attempts =
      config.mousePorts.flatMap fun port => button.edges (before.portEvents port) :=
    fun before hin => edges_attempts hbutton (asked_beforeTicks run hasked before hin) hnodup
  have hall : button.edges (session.attemptsOver run) =
      ticked.flatMap fun before => button.edges before.attempts := by
    rw [attemptsOver_eq_flatMap, Button.edges_flatMap]
  refine ⟨hports, hticks, hall, fun hlength => ?_⟩
  rw [hall, List.flatMap_congr hticks]
  match hlist : config.mousePorts, hlength with
  | [], _ =>
    have hnone : (ticked.flatMap fun before => ([] : List Port).flatMap fun port =>
        button.edges (before.portEvents port)) = [] := List.flatMap_eq_nil_iff.mpr fun _ _ => rfl
    exact hnone ▸ .nil false
  | [port], _ =>
    simp only [List.flatMap_singleton]
    exact hports port (hlist ▸ List.mem_singleton.mpr rfl)

/-- Two mice, of which the second one comes first and has its left button down. -/
theorem button_edges_take_turns_on_two_ports :
    let config : Config := { mousePorts := [.port1, .port0] }
    let bus := (idleMachine (.forChipset .ocs)).setLevel (RegisterMap.forChipset .ocs).ciaaPra 0x7F
    let session := new bus ({} : RecordingSink) config
    config.validate = .ok () ∧ Button.left.OfMouse ∧
      ∀ port ∈ config.mousePorts, Alternates ((session.beforeTicks [.start, .tick, .tick]).flatMap
        fun before => Button.left.edges (before.portEvents port)) := by
  intro config bus session
  have hvalid : config.validate = .ok () := by decide
  exact ⟨hvalid, Or.inl rfl,
    (button_edges_take_turns hvalid bus _ [.start, .tick, .tick] (Or.inl rfl)).1⟩

/-- With both left buttons down the host is told of two presses and of no release between
them. -/
theorem merged_edges_repeat :
    let config : Config := { mousePorts := [.port0, .port1], keyboard := false, lightpen := false }
    let bus := (idleMachine (.forChipset .ocs)).setLevel (RegisterMap.forChipset .ocs).ciaaPra 0x3F
    let session := new bus ({} : RecordingSink) config
    config.validate = .ok () ∧
      session.attemptsOver [.start, .tick] =
        [.button .left true, .button .left true, .sync] ∧
      ¬Alternates (Button.left.edges (session.attemptsOver [.start, .tick])) := by
  intro config bus session
  have hattempts : session.attemptsOver [.start, .tick] =
      [.button .left true, .button .left true, .sync] := by decide
  refine ⟨by decide, hattempts, ?_⟩
  rw [hattempts]
  unfold Alternates AlternatesFrom
  decide

end Session

end InputBridge
