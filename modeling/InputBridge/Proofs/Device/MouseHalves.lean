import InputBridge.IdleMachine
import InputBridge.Proofs.Bus.Plans
import InputBridge.Proofs.Device.ButtonBits

/-!
# Ports, motion and buttons apart

Each port of the mouse has two halves, its motion and its buttons, and each half has reads of
its own. `PolledInHalves` says that a poll treats them apart: what is attempted for a half and
what becomes of it depends on the answers to its own reads only, every port is read whatever
failed before, and the poll fails with the first of the failures, if there are any.

Over a run of polls the edges of a button on one port are in turn with where the button was at
the start, and the last one says where it is (`HalvesInv`). So whoever replays them on the
buttons of the start gets the buttons of the end (`mouse_halves_apart`).
-/

namespace InputBridge

variable {β : Type}

/-! ## The two halves of a visit -/

namespace MouseState

/-- The moves that are attempted for an answer of the counters: the parts of the report that
are not 0, along x and then along y. -/
def moves (state : MouseState) (bound : Int32) : Except BusError UInt16 → List Event
  | .ok word =>
    let report := (state.count word bound).1
    (nonzero report.1).map (.relative .x) ++ (nonzero report.2).map (.relative .y)
  | .error _ => []

/-- The edges that are attempted for buttons that were read: of those that changed, in the order
left, right, middle. -/
def edges (state : MouseState) : Except BusError UInt8 → List Event
  | .ok buttons => mouseButtons.filterMap fun (bit, button) =>
      let now := buttons &&& bit != 0
      if now = state.isDown bit then none else some (.button button now)
  | .error _ => []

/-- Two states with the same motion: position, reports and latched counters. -/
structure SameMotion (state other : MouseState) : Prop where
  x : state.x = other.x
  y : state.y = other.y
  latched : state.latched = other.latched

variable (state : MouseState) (port : Port) (bound : Int32)

theorem events_hearCounters (answer : Except BusError UInt16) :
    (state.hearCounters port bound answer).1.filterMap Remark.event? =
      state.moves bound answer := by
  cases answer with
  | error cause => rfl
  | ok word =>
    have hmove : ∀ (axis : RelativeAxis) (report : Int32),
        (if report = 0 then [] else [Remark.event (.relative axis report)]).filterMap
          Remark.event? = (nonzero report).map (.relative axis) := by
      intro axis report
      unfold nonzero
      split <;> rfl
    show (Mouse.motionRemarks ..).filterMap Remark.event? = _
    unfold Mouse.motionRemarks
    rw [List.filterMap_append, List.filterMap_append, hmove, hmove]
    split
    · exact List.append_nil _
    · -- A note that motion is pending is no event.
      exact List.append_nil _

theorem edges_eq (buttons : UInt8) :
    state.edges (.ok buttons) = buttonEdges (buttons ^^^ state.buttons) buttons := by
  refine List.filterMap_congr fun (bit, button) hentry => ?_
  have hchanged := xor_and_buttonBit hentry state.buttons buttons
  by_cases hsame : (buttons &&& bit != 0) = state.isDown bit
  · dsimp only
    rw [if_pos hsame, if_pos (hchanged.mpr hsame)]
  · dsimp only
    rw [if_neg hsame, if_neg fun hnone => hsame (hchanged.mp hnone)]

theorem events_hearButtons (buttons : Except BusError UInt8) :
    (state.hearButtons buttons).1.filterMap Remark.event? = state.edges buttons := by
  cases buttons with
  | error cause => rfl
  | ok buttons =>
    rw [edges_eq]
    unfold hearButtons
    dsimp only
    rw [List.filterMap_map]
    exact List.filterMap_some

/-- Motion does not move the buttons. -/
theorem buttons_hearCounters (answer : Except BusError UInt16) :
    (state.hearCounters port bound answer).2.buttons = state.buttons := by
  cases answer <;> rfl

theorem events_hear (heard : Heard) :
    (state.hear port bound heard).1.filterMap Remark.event? =
      state.moves bound heard.counters ++ state.edges heard.buttons := by
  have hedges : (state.hearCounters port bound heard.counters).2.edges heard.buttons =
      state.edges heard.buttons := by
    unfold edges isDown
    rw [buttons_hearCounters]
  unfold hear
  dsimp only
  rw [List.filterMap_append, events_hearCounters, events_hearButtons, hedges]

section After

variable {state : MouseState} {port : Port} {bound : Int32} {heard : Heard}

/-- Whatever became of the buttons, the motion is that of the counters. -/
theorem sameMotion_hear {answer : Except BusError UInt16} (h : heard.counters = answer) :
    (state.hear port bound heard).2.SameMotion (state.hearCounters port bound answer).2 := by
  unfold hear hearButtons
  rw [h]
  cases heard.buttons <;> exact ⟨rfl, rfl, rfl⟩

theorem counted_hear {word : UInt16} (h : heard.counters = .ok word) :
    (state.hear port bound heard).2.SameMotion (state.count word bound).2 := sameMotion_hear h

theorem stayed_hear {cause : BusError} (h : heard.counters = .error cause) :
    (state.hear port bound heard).2.SameMotion state := sameMotion_hear h

theorem pressed_hear {buttons : UInt8} (h : heard.buttons = .ok buttons) :
    (state.hear port bound heard).2.buttons = buttons := by
  unfold hear
  rw [h]
  rfl

theorem held_hear {cause : BusError} (h : heard.buttons = .error cause) :
    (state.hear port bound heard).2.buttons = state.buttons := by
  unfold hear
  rw [h]
  exact buttons_hearCounters ..

end After

end MouseState

/-! ## One poll -/

/-- The reads of a visit with their answers, in order. -/
def Answered.readings (answered : Answered) (lines : PortLines) :
    List (Address × Except BusError UInt16) :=
  (lines.counters, answered.counters) :: (lines.fire, answered.lines.fire) ::
    match answered.lines.fire with
    | .ok _ => [(lines.pot, answered.lines.pot)]
    | .error _ => []

namespace Polled

variable [RegisterBus β] (polled : Polled β Mouse Unit) (port : Port)

/-- What the reads of the ports are answered in a poll. -/
def answered : Port → Answered :=
  Mouse.answers polled.device.map polled.device.ports polled.bus

/-- The buttons of a port, if both of its button reads succeed. -/
def buttonsRead : Except BusError UInt8 :=
  (polled.answered port).lines.buttons (port.lines polled.device.map)

/-- What a poll attempts for a port. -/
def eventsOf : List Event :=
  if port ∈ polled.device.ports then
    (polled.device.stateOf port).moves polled.device.maxDelta (polled.answered port).counters ++
      (polled.device.stateOf port).edges (polled.buttonsRead port)
  else []

end Polled

/-- A poll of the mouse, half by half. -/
structure PolledInHalves [RegisterBus β] (polled : Polled β Mouse Unit) : Prop where
  /-- Every port is read, and all that is read are the ports. -/
  readings : (polled.device.poll.history polled.bus).filterMap Moment.reading? =
    polled.device.ports.flatMap fun port =>
      (polled.answered port).readings (port.lines polled.device.map)
  /-- Port by port, the moves and then the edges are attempted. -/
  events : polled.events = polled.device.ports.flatMap polled.eventsOf
  /-- The poll fails with the first read that does. -/
  answer : polled.answer =
    match (polled.device.poll.history polled.bus).findSome? Moment.failure? with
    | some cause => .error cause
    | none => .ok ()
  /-- Counters that are read are counted. -/
  counted : ∀ port ∈ polled.device.ports, ∀ word, (polled.answered port).counters = .ok word →
    (polled.after.stateOf port).SameMotion
      ((polled.device.stateOf port).count word polled.device.maxDelta).2
  /-- Where that fails the motion of the port stays as it is. -/
  stayed : ∀ port ∈ polled.device.ports, ∀ cause,
    (polled.answered port).counters = .error cause →
      (polled.after.stateOf port).SameMotion (polled.device.stateOf port)
  /-- Buttons that are read are kept. -/
  pressed : ∀ port ∈ polled.device.ports, ∀ buttons, polled.buttonsRead port = .ok buttons →
    (polled.after.stateOf port).buttons = buttons
  /-- Where that fails the buttons of the port stay as they are. -/
  held : ∀ port ∈ polled.device.ports, ∀ cause, polled.buttonsRead port = .error cause →
    (polled.after.stateOf port).buttons = (polled.device.stateOf port).buttons
  others : ∀ port ∉ polled.device.ports,
    polled.after.stateOf port = polled.device.stateOf port

namespace Mouse

theorem readings_visitMoments (mouse : Mouse) (port : Port) (answered : Answered) :
    (mouse.visitMoments port answered).filterMap Moment.reading? =
      answered.readings (port.lines mouse.map) := by
  have hremarks : ∀ outs : List Remark,
      (outs.map (Moment.remark (ω := Remark))).filterMap Moment.reading? = [] := by
    intro outs
    rw [List.filterMap_map]
    exact List.filterMap_eq_nil_iff.mpr fun _ _ => rfl
  unfold visitMoments Answered.readings LineAnswers.reads
  dsimp only
  rw [List.cons_append, List.filterMap_cons_some (by rfl), List.filterMap_append,
    List.filterMap_append, hremarks, hremarks, List.nil_append, List.append_nil]
  cases answered.lines.fire <;> rfl

/-- A visit fails with the first of its reads that does. -/
theorem failure_visitMoments (mouse : Mouse) (port : Port) (answered : Answered) :
    (mouse.visitMoments port answered).findSome? Moment.failure? =
      (answered.heard (port.lines mouse.map)).failure? := by
  have hremarks : ∀ outs : List Remark,
      (outs.map (Moment.remark (ω := Remark))).findSome? Moment.failure? = none := by
    intro outs
    rw [List.findSome?_map]
    exact List.findSome?_eq_none_iff.mpr fun _ _ => rfl
  have hlines : (answered.lines.reads (port.lines mouse.map)).findSome?
      (Moment.failure? (ω := Remark)) =
        failureOf (answered.lines.buttons (port.lines mouse.map)) := by
    unfold LineAnswers.reads LineAnswers.buttons
    cases answered.lines.fire with
    | error cause => rfl
    | ok fire => cases answered.lines.pot <;> rfl
  unfold visitMoments Heard.failure? Answered.heard
  dsimp only
  rw [List.findSome?_append, List.findSome?_append, List.findSome?_cons, hremarks, hremarks, hlines,
    Option.or_none]
  cases answered.counters <;> rfl

section Poll

variable [RegisterBus β] {mouse : Mouse}

theorem failure_pollPorts : ∀ {visits : List Port} {mouse : Mouse},
    (∀ port ∈ visits, port ∈ mouse.ports) → ∀ bus : β,
      ((mouse.pollPorts visits).run bus).value.1 =
        ((mouse.pollPorts visits).history bus).findSome? Moment.failure?
  | [], _, _, _ => rfl
  | port :: rest, mouse, hin, bus => by
    obtain ⟨hrun, hhistory⟩ := pollPorts_cons (hin port (List.mem_cons_self ..)) rest bus
    let asked := port.ask mouse.map bus
    let after := mouse.setState port
      (mouse.hear port (asked.1.heard (port.lines mouse.map))).2
    have hports : after.ports = mouse.ports := mouse.ports_setState ..
    have hrest : ∀ other ∈ rest, other ∈ after.ports :=
      fun other hother => hports ▸ hin other (List.mem_cons_of_mem _ hother)
    rw [hrun, hhistory, List.findSome?_append, failure_visitMoments,
      ← failure_pollPorts hrest asked.2]

theorem answer_poll (mouse : Mouse) (bus : β) :
    (pollOnce Mouse.poll mouse bus).answer =
      match (mouse.poll.history bus).findSome? Moment.failure? with
      | some cause => .error cause
      | none => .ok () := by
  have hports : ∀ port ∈ mouse.ports, port ∈ mouse.ports := fun _ hin => hin
  have hfailure := failure_pollPorts hports bus
  obtain ⟨hrun, hhistory⟩ := mouse.run_poll bus
  show (mouse.poll.run bus).value.1 = _
  rw [hrun, hhistory, ← hfailure]
  cases ((mouse.pollPorts mouse.ports).run bus).value.1 <;> rfl

/-- A button has one edge on a port if it changed, to where it is now, and else none. -/
theorem edges_eventsOf (hnodup : mouse.ports.Nodup) (bus : β) {bit : UInt8} {button : Button}
    (hbutton : (bit, button) ∈ mouseButtons) (port : Port) :
    button.edges ((pollOnce Mouse.poll mouse bus).eventsOf port) =
      if ((pollOnce Mouse.poll mouse bus).after.stateOf port).isDown bit =
        (mouse.stateOf port).isDown bit then []
      else [((pollOnce Mouse.poll mouse bus).after.stateOf port).isDown bit] := by
  obtain ⟨htold, -⟩ := poll_visits hnodup bus
  unfold Polled.eventsOf
  by_cases hport : port ∈ (pollOnce Mouse.poll mouse bus).device.ports
  · rw [htold.visited port hport, if_pos hport]
    have hedges := (mouse.stateOf port).edges_hear hbutton port mouse.maxDelta
      (((pollOnce Mouse.poll mouse bus).answered port).heard (port.lines mouse.map))
    rw [MouseState.events_hear] at hedges
    exact hedges
  · rw [htold.others port hport, if_neg hport, if_pos rfl]
    rfl

theorem poll_inHalves (hnodup : mouse.ports.Nodup) (bus : β) :
    PolledInHalves (pollOnce Mouse.poll mouse bus) := by
  obtain ⟨htold, hhistory⟩ := poll_visits hnodup bus
  refine ⟨?_, ?_, mouse.answer_poll bus, ?_, ?_, ?_, ?_, htold.others⟩
  · show (mouse.poll.history bus).filterMap Moment.reading? = _
    rw [hhistory, List.filterMap_flatMap]
    exact List.flatMap_congr fun port _ => readings_visitMoments ..
  · show (mouse.poll.run bus).remarks.filterMap Remark.event? = _
    rw [Program.remarks_run, hhistory, remarks_visits, List.filterMap_flatMap]
    refine List.flatMap_congr fun port hport => ?_
    exact (MouseState.events_hear ..).trans (if_pos hport).symm
  · intro port hport word hword
    rw [htold.visited port hport]
    exact MouseState.counted_hear hword
  · intro port hport cause hcause
    rw [htold.visited port hport]
    exact MouseState.stayed_hear hcause
  · intro port hport buttons hbuttons
    rw [htold.visited port hport]
    exact MouseState.pressed_hear hbuttons
  · intro port hport cause hcause
    rw [htold.visited port hport]
    exact MouseState.held_hear hcause

end Poll

end Mouse

theorem LineAnswers.buttons_and_allButtons {answers : LineAnswers} {lines : PortLines}
    {buttons : UInt8} (h : answers.buttons lines = .ok buttons) :
    buttons &&& allButtons = buttons := by
  unfold LineAnswers.buttons at h
  cases hfire : answers.fire with
  | error cause =>
    rw [hfire] at h
    cases h
  | ok fire =>
    cases hpot : answers.pot with
    | error cause =>
      rw [hfire, hpot] at h
      cases h
    | ok pot =>
      rw [hfire, hpot] at h
      rw [← Except.ok.inj h]
      exact lines.pressed_and_allButtons fire.toUInt8 pot

namespace PolledInHalves

variable [RegisterBus β] {polled : Polled β Mouse Unit}

/-- A poll keeps no bit that is not of a button. -/
theorem buttons_and_allButtons (h : PolledInHalves polled) {port : Port}
    (hbefore : (polled.device.stateOf port).buttons &&& allButtons =
      (polled.device.stateOf port).buttons) :
    (polled.after.stateOf port).buttons &&& allButtons = (polled.after.stateOf port).buttons := by
  by_cases hport : port ∈ polled.device.ports
  · cases hread : polled.buttonsRead port with
    | error cause =>
      rw [h.held port hport cause hread]
      exact hbefore
    | ok buttons =>
      rw [h.pressed port hport buttons hread]
      exact LineAnswers.buttons_and_allButtons hread
  · rw [h.others port hport]
    exact hbefore

end PolledInHalves

/-! ## Runs -/

section Runs

variable [RegisterBus β]

/-- The edges of a button that a run of polls attempted for a port. -/
def portEdges (button : Button) (port : Port) (done : List (Polled β Mouse Unit)) : List Bool :=
  button.edges (done.flatMap fun polled => polled.eventsOf port)

/-- The mice after a list of polls: each of them went half by half, and on each port the edges
of a button take turns with where it was at the start and end where it is. -/
structure HalvesInv (start : Mouse) (done : List (Polled β Mouse Unit)) (mouse : Mouse) :
    Prop where
  makeup : start.SameMakeup mouse
  inHalves : ∀ polled ∈ done, PolledInHalves polled
  alternates : ∀ port bit button, (bit, button) ∈ mouseButtons →
    AlternatesFrom ((start.stateOf port).isDown bit) (portEdges button port done)
  last : ∀ port bit button, (bit, button) ∈ mouseButtons →
    (portEdges button port done).getLastD ((start.stateOf port).isDown bit) =
      (mouse.stateOf port).isDown bit
  buttons : ∀ port, (start.stateOf port).buttons &&& allButtons = (start.stateOf port).buttons →
    (mouse.stateOf port).buttons &&& allButtons = (mouse.stateOf port).buttons

theorem halvesInv_start (start : Mouse) :
    HalvesInv start ([] : List (Polled β Mouse Unit)) start where
  makeup := .refl start
  inHalves := fun _ hin => absurd hin List.not_mem_nil
  alternates := fun _ _ _ _ => .nil _
  last := fun _ _ _ _ => rfl
  buttons := fun _ hstart => hstart

theorem halvesInv_step {start : Mouse} (hnodup : start.ports.Nodup)
    (done : List (Polled β Mouse Unit)) (mouse : Mouse) (bus : β) (h : HalvesInv start done mouse) :
    HalvesInv start (done ++ [pollOnce Mouse.poll mouse bus])
      (pollOnce Mouse.poll mouse bus).after := by
  have hports : mouse.ports.Nodup := h.makeup.ports_eq.symm ▸ hnodup
  have hpolled : PolledInHalves (pollOnce Mouse.poll mouse bus) := Mouse.poll_inHalves hports bus
  have hedges : ∀ button port,
      portEdges button port (done ++ [pollOnce Mouse.poll mouse bus]) =
        portEdges button port done ++
          button.edges ((pollOnce Mouse.poll mouse bus).eventsOf port) := by
    intro button port
    unfold portEdges
    rw [List.flatMap_append, List.flatMap_singleton, Button.edges_append]
  have hturn : ∀ port bit button, (bit, button) ∈ mouseButtons → _ :=
    fun port bit button hbutton => (h.alternates port bit button hbutton).follow
      (h.last port bit button hbutton)
      (((pollOnce Mouse.poll mouse bus).after.stateOf port).isDown bit)
  refine ⟨h.makeup.trans (Mouse.poll_visits hports bus).1.sameMakeup, fun polled hin => ?_,
    fun port bit button hbutton => ?_, fun port bit button hbutton => ?_, fun port hstart => ?_⟩
  · rcases List.mem_append.mp hin with hearlier | hlast
    · exact h.inHalves polled hearlier
    · rw [List.mem_singleton.mp hlast]
      exact hpolled
  · rw [hedges, Mouse.edges_eventsOf hports bus hbutton]
    exact (hturn port bit button hbutton).1
  · rw [hedges, Mouse.edges_eventsOf hports bus hbutton]
    exact (hturn port bit button hbutton).2
  · exact hpolled.buttons_and_allButtons (h.buttons port hstart)

/-- **Ports, motion and buttons apart.** Whatever the reads of a run of polls are answered, each
poll goes half by half. On each port the edges of a button take turns with where it was at the
start, and replayed on the buttons of the start they give those of the end. -/
theorem mouse_halves_apart (mouse : Mouse) (hnodup : mouse.ports.Nodup) (changes : List (β → β))
    (bus : β) :
    let done := polls Mouse.poll changes mouse bus
    (∀ polled ∈ done, PolledInHalves polled) ∧
    ∀ port,
      let events := done.flatMap fun polled => polled.eventsOf port
      let start := (mouse.stateOf port).buttons
      let ended := ((afterPolls done mouse).stateOf port).buttons
      (∀ bit button, (bit, button) ∈ mouseButtons →
        AlternatesFrom (start &&& bit != 0) (button.edges events)) ∧
      events.foldl replayEdge start &&& allButtons = ended &&& allButtons ∧
      (start &&& allButtons = start → events.foldl replayEdge start = ended) := by
  intro done
  have hinv : HalvesInv mouse done (afterPolls done mouse) :=
    polls_inv (fun done later bus => halvesInv_step hnodup done later bus) changes bus
      (halvesInv_start mouse)
  refine ⟨hinv.inHalves, fun port => ?_⟩
  intro events start ended
  have hsame : events.foldl replayEdge start &&& allButtons = ended &&& allButtons := by
    refine and_allButtons_congr fun bit button hbutton => ?_
    exact (isDown_replay hbutton events start).trans (hinv.last port bit button hbutton)
  refine ⟨hinv.alternates port, hsame, fun hstart => ?_⟩
  calc events.foldl replayEdge start
      = events.foldl replayEdge start &&& allButtons := (replay_and_allButtons events hstart).symm
    _ = ended &&& allButtons := hsame
    _ = ended := hinv.buttons port hstart

end Runs

/-- Two mice with their left buttons down, the first of which cannot count: its button is
reported all the same, and so is the other mouse. -/
theorem mouse_halves_apart_across_faults :
    let map := RegisterMap.forChipset .ocs
    let mouse := Mouse.new map [.port1, .port0] 127
    let bus := ((idleMachine map).setLevel map.ciaaPra 0x3F).failReads map.joy1dat (.next 1)
    let done := polls Mouse.poll [id, (·.setLevel map.ciaaPra 0xBF)] mouse bus
    mouse.ports.Nodup ∧ (∀ polled ∈ done, PolledInHalves polled) ∧
      done.map Polled.answer =
        [.error (.readFailed map.joy1dat .word MemoryBus.faultReason), .ok ()] ∧
      (done.flatMap fun polled => polled.eventsOf .port1) =
        [.button .left true, .button .left false] ∧
      (done.flatMap fun polled => polled.eventsOf .port0) = [.button .left true] ∧
      [.button .left true].foldl replayEdge 0 =
        ((afterPolls done mouse).stateOf .port0).buttons := by
  intro map mouse bus done
  have hnodup : mouse.ports.Nodup := by decide
  obtain ⟨hhalves, hruns⟩ :=
    mouse_halves_apart mouse hnodup [id, (·.setLevel map.ciaaPra 0xBF)] bus
  have hevents : (done.flatMap fun polled => polled.eventsOf .port0) = [.button .left true] := by
    decide
  obtain ⟨-, -, hreplayed⟩ := hruns .port0
  exact ⟨hnodup, hhalves, by decide, by decide, hevents, hevents ▸ hreplayed (by decide)⟩

end InputBridge
