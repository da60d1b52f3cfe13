import InputBridge.Proofs.Device.AtRest
import InputBridge.Proofs.Session.CalmTick

/-!
# Settling

If nobody changes a calm register file any more, a session settles with its next tick,
whatever happened to it before. `Settled` says what that means: no column is selected, and
every device rests, that is, it has sensed what it would sense now. Any tick on a calm
register file settles the session (`settled_tick`), and every later tick finds the registers
as the one before and keeps it settled (`Settled.ticked`). From then on there are no edges;
the ports report what motion is pending, and the pen says where it is (`settles`).
-/

namespace InputBridge

open MemoryBus (SameOutside)

namespace Session

/-- The same session on another bus. -/
def onBus {β β' σ : Type} (session : Session β σ) (bus : β') : Session β' σ :=
  { config := session.config
    bus
    sink := session.sink
    devices := session.devices
    stats := session.stats
    ready := session.ready }

variable {σ : Type} {config : Config} {bus : MemoryBus} {session : Session MemoryBus σ}

/-- A session that has settled on a register file in the state of `bus`. -/
structure Settled (config : Config) (bus : MemoryBus) (session : Session MemoryBus σ) :
    Prop where
  asked : session.devices.MouseAsked config
  calm : session.bus.Calm
  unselected : SameOutside [] session.unselected bus
  keyboard : ∀ keyboard ∈ session.devices.keyboard, session.bus.matrix keyboard = keyboard.held
  ports : ∀ mouse ∈ session.devices.mouse, ∀ port ∈ mouse.ports,
    (mouse.stateOf port).Rests (port.lines mouse.map) bus
  pen : ∀ pen ∈ session.devices.lightpen, pen.state.Rests (bus.seenBy pen)

theorem Settled.congr {bus' : MemoryBus} (h : session.Settled config bus)
    (hsame : SameOutside [] bus bus') : session.Settled config bus' where
  asked := h.asked
  calm := h.calm
  unselected := h.unselected.trans hsame
  keyboard := h.keyboard
  ports mouse hmouse port hport := (h.ports mouse hmouse port hport).congr hsame
  pen pen hpen := by
    have hseen : bus.seenBy pen = bus'.seenBy pen :=
      MemoryBus.seenBy_congr fun _ _ => hsame.steady_eq _
    exact hseen ▸ h.pen pen hpen

variable [EventSink σ]

/-! ## Ticks -/

/-- One tick on a calm register file settles a session. -/
theorem settled_tick (hasked : session.devices.MouseAsked config)
    (hnodup : config.mousePorts.Nodup) (hcalm : session.bus.Calm) :
    session.tick.value.Settled config session.unselected := by
  have htick := calmTick hcalm hasked hnodup
  have hleft := htick.left
  constructor
  case asked => exact makeup_step hasked .tick
  case calm => exact htick.calm
  case unselected =>
    unfold unselected at hleft ⊢
    rw [htick.keyboardAfter]
    generalize session.tick.value.bus = after at hleft ⊢
    revert hleft
    cases session.devices.keyboard with
    | none => exact id
    | some keyboard =>
      exact fun hleft => Keyboard.SameUnselected.of_deselected hleft deselectAll
  case keyboard =>
    intro keyboard hkeyboard
    rw [htick.keyboardAfter] at hkeyboard
    obtain ⟨before, hbefore, rfl⟩ := Option.map_eq_some_iff.mp hkeyboard
    have hdeselected : SameOutside [] session.tick.value.bus (session.bus.deselected before) := by
      unfold unselected at hleft
      rw [hbefore] at hleft
      exact hleft
    -- The tick has selected columns, but the next scan selects its own.
    have hsame : before.SameUnselected session.tick.value.bus session.bus :=
      .of_deselected hdeselected
    rw [MemoryBus.matrix_held]
    exact hsame.matrix
  case ports =>
    intro mouse hmouse port hport
    rw [htick.mouseAfter] at hmouse
    obtain ⟨before, _, rfl⟩ := Option.map_eq_some_iff.mp hmouse
    rw [before.stateOf_visited _ hport]
    exact MouseState.rests_visit ..
  case pen =>
    intro pen hpen
    rw [htick.penAfter] at hpen
    obtain ⟨before, _, rfl⟩ := Option.map_eq_some_iff.mp hpen
    exact PenState.rests_next ..

section Ticks

variable (hnodup : config.mousePorts.Nodup)

include hnodup

/-- A settled session stays settled, on registers in the same state. -/
theorem Settled.tick (h : session.Settled config bus) :
    session.tick.value.Settled config bus :=
  (settled_tick h.asked hnodup h.calm).congr h.unselected

theorem Settled.ticked : ∀ (count : Nat) {session : Session MemoryBus σ},
    session.Settled config bus → (session.ticked count).Settled config bus
  | 0, _, h => h
  | count + 1, _, h => ticked count (h.tick hnodup)

/-! ## What a settled session attempts -/

theorem Settled.pollEvents_keyboard (h : session.Settled config bus) :
    session.pollEvents .keyboard = [] := by
  rw [(calmTick h.calm h.asked hnodup).keyboardEvents]
  cases hkeyboard : session.devices.keyboard with
  | none => rfl
  | some keyboard =>
    rw [Option.map_some, Option.getD_some, h.keyboard keyboard hkeyboard]
    exact List.filterMap_eq_nil_iff.mpr fun p _ => if_pos rfl

theorem Settled.portRemarks_eq (h : session.Settled config bus) {mouse : Mouse}
    (hmouse : mouse ∈ session.devices.mouse) {port : Port} (hport : port ∈ mouse.ports) :
    session.portRemarks port = ((mouse.stateOf port).visit port (port.lines mouse.map)
      mouse.maxDelta bus).1 := by
  rw [(calmTick h.calm h.asked hnodup).ports mouse hmouse port hport,
    Mouse.visit_congr h.unselected]
  rfl

theorem Settled.pollEvents_lightpen (h : session.Settled config bus) :
    session.pollEvents .lightpen =
      PenState.restEvents (session.devices.lightpen.bind bus.seenBy) := by
  rw [(calmTick h.calm h.asked hnodup).penEvents]
  cases hpen : session.devices.lightpen with
  | none => rfl
  | some pen =>
    have hseen : session.unselected.seenBy pen = bus.seenBy pen :=
      MemoryBus.seenBy_congr fun _ _ => h.unselected.steady_eq _
    rw [Option.map_some, Option.getD_some, hseen]
    exact (h.pen pen hpen).events

/-- No device has an edge to report. -/
theorem Settled.not_isEdge (h : session.Settled config bus) :
    ∀ event ∈ session.attempts, event.isEdge = false := by
  have hclosed : ∀ {events : List Event}, (∀ event ∈ events, event.isEdge = false) →
      ∀ event ∈ closed events, event.isEdge = false := by
    intro events hevents event hin
    unfold closed at hin
    split at hin
    next => cases hin
    next =>
      rcases List.mem_append.mp hin with hbody | hsync
      · exact hevents event hbody
      · rw [List.mem_singleton.mp hsync]
        rfl
  intro event hevent
  rw [attempts_eq, group_eq, group_eq, group_eq, h.pollEvents_keyboard hnodup,
    h.pollEvents_lightpen hnodup] at hevent
  rcases List.mem_append.mp hevent with hfirst | hpen
  · rcases List.mem_append.mp hfirst with hkeyboard | hmouse
    · cases hkeyboard
    · refine hclosed (fun event hin => ?_) event hmouse
      rw [(calmTick h.calm h.asked hnodup).mouseEvents] at hin
      cases hmouse : session.devices.mouse with
      | none => rw [hmouse] at hin; cases hin
      | some mouse =>
        rw [hmouse] at hin
        obtain ⟨port, hport, hin⟩ := List.mem_flatMap.mp hin
        rw [h.portRemarks_eq hnodup hmouse hport] at hin
        exact ((h.ports mouse hmouse port hport).remarks port mouse.maxDelta).1 event hin
  · exact hclosed (PenState.not_isEdge_restEvents _) event hpen

/-! ## Tick after tick -/

/-- The mouse of a settled session: pending motion is all that changes. -/
theorem Settled.mouse_ticked : ∀ (count : Nat) {session : Session MemoryBus σ} {mouse : Mouse},
    session.Settled config bus → mouse ∈ session.devices.mouse →
    ∃ later ∈ (session.ticked count).devices.mouse, mouse.SameMakeup later ∧
      ∀ port ∈ mouse.ports,
        later.stateOf port = (mouse.stateOf port).afterRest mouse.maxDelta count
  | 0, _, mouse, _, hmouse => ⟨mouse, hmouse, Mouse.SameMakeup.refl mouse, fun _ _ => rfl⟩
  | count + 1, session, mouse, h, hmouse => by
    have hnext : mouse.visited bus ∈ session.tick.value.devices.mouse := by
      rw [(calmTick h.calm h.asked hnodup).mouseAfter, hmouse, ← Mouse.visited_congr h.unselected]
      rfl
    obtain ⟨later, hlater, hsame, hstate⟩ := mouse_ticked count (h.tick hnodup) hnext
    refine ⟨later, hlater, ⟨hsame.map_eq, hsame.ports_eq, hsame.maxDelta_eq⟩,
      fun port hport => ?_⟩
    have hvisit := (h.ports mouse hmouse port hport).visit_eq port mouse.maxDelta
    rw [hstate port hport, mouse.stateOf_visited bus hport, ← MouseState.afterRest_succ]
    exact congrArg (fun visit : List Remark × MouseState =>
      visit.2.afterRest mouse.maxDelta count) hvisit

/-- The pen of a settled session sees the same in every tick. -/
theorem Settled.seen_ticked : ∀ (count : Nat) {session : Session MemoryBus σ},
    session.Settled config bus →
    (session.ticked count).devices.lightpen.bind bus.seenBy =
      session.devices.lightpen.bind bus.seenBy
  | 0, _, _ => rfl
  | count + 1, session, h => by
    rw [show session.ticked (count + 1) = session.tick.value.ticked count from rfl,
      seen_ticked count (h.tick hnodup), (calmTick h.calm h.asked hnodup).penAfter]
    cases session.devices.lightpen <;> rfl

/-- The moves of a port in the ticks of a settled session: what is pending on an axis is
reported in the next ticks, as many as bounds go into it, rounded up, and no more. -/
theorem Settled.moves (h : session.Settled config bus) (hbound : 0 < config.maxMouseDelta)
    {mouse : Mouse} (hmouse : mouse ∈ session.devices.mouse) {port : Port}
    (hport : port ∈ mouse.ports) (axis : RelativeAxis) :
    let pending := ((mouse.stateOf port).along axis).pending.toInt
    let count := pending.natAbs ⌈/⌉ config.maxMouseDelta.toInt.toNat
    let moves (n : Nat) := ((session.ticked n).portRemarks port).filterMap (moveAlong axis)
    (∀ n, (moves n).length = if n < count then 1 else 0) ∧
      (((List.range count).flatMap moves).map Int32.toInt).sum = pending := by
  intro pending count moves
  have hmoves : moves = fun n => nonzero (((Axis.drained config.maxMouseDelta)^[n]
      ((mouse.stateOf port).along axis)).advance 0 config.maxMouseDelta).1 := by
    funext n
    obtain ⟨later, hlater, hsame, hstate⟩ := h.mouse_ticked hnodup n hmouse
    have hsettled := h.ticked hnodup n
    have hin : port ∈ later.ports := hsame.ports_eq ▸ hport
    have hrests := hsettled.ports later hlater port hin
    show ((session.ticked n).portRemarks port).filterMap (moveAlong axis) = _
    rw [hsettled.portRemarks_eq hnodup hlater hin, (hrests.remarks port later.maxDelta).2,
      hstate port hport, MouseState.along_afterRest, hsame.maxDelta_eq,
      (h.asked mouse hmouse).maxDelta_eq]
  rw [hmoves]
  exact Axis.drains hbound _

end Ticks

/-- **Settling.** Whatever happened to a session with a valid configuration, on any bus, if
its bus is calm from now on and nobody changes it, it has settled after one more tick. No
later tick attempts an edge of a key or of a button. What is pending on an axis of a port
then is attempted in the next ticks, one move each, as many as bounds go into it, rounded
up, and never again, and these moves sum up to it. The pen attempts nothing, or in every
tick the same place and a sync. -/
theorem settles {β : Type} [RegisterBus β] (hvalid : config.validate = .ok ()) (past : β)
    (sink : σ) (run : List (Step β)) (hcalm : bus.Calm) :
    let settled := (((new past sink config).steps run).2.onBus bus).tick.value
    (∀ n, ∀ event ∈ (settled.ticked n).attempts, event.isEdge = false) ∧
      (∀ mouse ∈ settled.devices.mouse,
        (∀ n, (settled.ticked n).group .mouse = closed (mouse.ports.flatMap fun port =>
          ((settled.ticked n).portRemarks port).filterMap Remark.event?)) ∧
        ∀ port ∈ mouse.ports, ∀ axis,
          let pending := ((mouse.stateOf port).along axis).pending.toInt
          let count := pending.natAbs ⌈/⌉ config.maxMouseDelta.toInt.toNat
          let moves (n : Nat) := ((settled.ticked n).portRemarks port).filterMap (moveAlong axis)
          (∀ n, (moves n).length = if n < count then 1 else 0) ∧
            (((List.range count).flatMap moves).map Int32.toInt).sum = pending) ∧
      ((∀ n, (settled.ticked n).group .lightpen = []) ∨
        ∃ x y pressure, ∀ n, (settled.ticked n).group .lightpen =
          [.absolute .x x, .absolute .y y, .absolute .pressure pressure, .sync]) := by
  intro settled
  obtain ⟨-, hbound, hnodup, -⟩ := Config.validate_eq_ok_iff.mp hvalid
  have hasked : ((new past sink config).steps run).2.devices.MouseAsked config :=
    makeup_steps run (Devices.MouseAsked.ofConfig config)
  have hsettled : settled.Settled config
      (((new past sink config).steps run).2.onBus bus).unselected :=
    settled_tick hasked hnodup hcalm
  generalize (((new past sink config).steps run).2.onBus bus).unselected = found at hsettled
  refine ⟨fun n => (hsettled.ticked hnodup n).not_isEdge hnodup, fun mouse hmouse => ?_, ?_⟩
  · refine ⟨fun n => ?_, fun port hport => hsettled.moves hnodup hbound hmouse hport⟩
    obtain ⟨later, hlater, hsame, -⟩ := hsettled.mouse_ticked hnodup n hmouse
    have htick := hsettled.ticked hnodup n
    rw [group_eq, (calmTick htick.calm htick.asked hnodup).mouseEvents, hlater]
    show closed (later.ports.flatMap _) = _
    rw [hsame.ports_eq]
  · have hgroup : ∀ n, (settled.ticked n).group .lightpen =
        closed (PenState.restEvents (settled.devices.lightpen.bind found.seenBy)) := by
      intro n
      rw [group_eq, (hsettled.ticked hnodup n).pollEvents_lightpen hnodup,
        hsettled.seen_ticked hnodup n]
    cases hseen : settled.devices.lightpen.bind found.seenBy with
    | none =>
      rw [hseen] at hgroup
      exact Or.inl hgroup
    | some sighting =>
      rw [hseen] at hgroup
      exact Or.inr ⟨_, _, _, hgroup⟩

/-- A mouse that has just jumped, and then nobody touches anything any more. -/
theorem settles_after_jump :
    let settled := (((new ({} : MemoryBus) ({} : RecordingSink) { maxMouseDelta := 10 }).steps
      [.start, .tick]).2.onBus (({} : MemoryBus).setLevel (RegisterMap.forChipset .ocs).joy0dat
        0xF019)).tick.value
    Config.validate { maxMouseDelta := 10 } = .ok () ∧
      ∀ n, ∀ event ∈ (settled.ticked n).attempts, event.isEdge = false :=
  ⟨by decide, (settles (by decide) _ _ _ ⟨fun _ => rfl, fun _ => rfl, fun _ => rfl⟩).1⟩

-- It went 25 to the right, of which the tick that settled it has reported 10.
example :
    let settled := (((new ({} : MemoryBus) ({} : RecordingSink) { maxMouseDelta := 10 }).steps
      [.start, .tick]).2.onBus (({} : MemoryBus).setLevel (RegisterMap.forChipset .ocs).joy0dat
        0xF019)).tick.value
    [0, 1, 2].map (fun n => ((settled.ticked n).portRemarks .port0).filterMap (moveAlong .x)) =
      [[10], [5], []] := by decide

end Session

end InputBridge
