import InputBridge.Proofs.Device.MouseRuns

/-!
# What a visit of a port hears

A poll of the mouse visits its ports one after the other. A visit reads the counters, and then
the lines of the buttons: the fire line, and the pot lines if the fire line could be read.
`Answered` is what these reads are answered, and `Port.ask` makes them, which takes nothing but
the bus: what is read does not depend on the state of a port or on any answer but that of the
fire line.

What a visit says and what it makes of its port then depends on the state of the port and on
what was heard. `MouseState.hear` is that function. The motion is one half of it and the buttons
are the other, and a half whose reads failed says nothing and changes nothing.

`Mouse.pollPorts_cons` says that a poll is this, one port after the other.
-/

namespace InputBridge

variable {ω α β : Type}

/-! ## What is heard -/

/-- What the reads of a visit were answered. The buttons are heard if both of their lines
are read. -/
structure Heard where
  counters : Except BusError UInt16
  buttons : Except BusError UInt8

namespace MouseState

/-- The motion half of a visit. -/
def hearCounters (state : MouseState) (port : Port) (bound : Int32) :
    Except BusError UInt16 → List Remark × MouseState
  | .ok word =>
    let counted := state.count word bound
    (Mouse.motionRemarks port counted.1 counted.2.pending, counted.2)
  | .error _ => ([], state)

/-- The button half of a visit. -/
def hearButtons (state : MouseState) : Except BusError UInt8 → List Remark × MouseState
  | .ok buttons =>
    ((buttonEdges (buttons ^^^ state.buttons) buttons).map .event, { state with buttons })
  | .error _ => ([], state)

/-- A visit: what is said of the port, and its state after it. -/
def hear (state : MouseState) (port : Port) (bound : Int32) (heard : Heard) :
    List Remark × MouseState :=
  let moved := state.hearCounters port bound heard.counters
  let pressed := moved.2.hearButtons heard.buttons
  (moved.1 ++ pressed.1, pressed.2)

end MouseState

/-- Why something failed, if it did. -/
def failureOf : Except BusError α → Option BusError
  | .ok _ => none
  | .error cause => some cause

/-- What the reads of the button lines of a port are answered. Where the fire line cannot be
read the pot lines are not read, and fail with it. -/
structure LineAnswers where
  fire : Except BusError UInt16
  pot : Except BusError UInt16

/-- What the reads of a visit are answered. -/
structure Answered where
  counters : Except BusError UInt16
  lines : LineAnswers

namespace LineAnswers

variable (answers : LineAnswers) (lines : PortLines)

/-- The buttons that are down, from both of their lines. -/
def buttons : Except BusError UInt8 := do
  let fire ← answers.fire
  let pot ← answers.pot
  return lines.pressed fire.toUInt8 pot

/-- The reads of the lines. -/
def reads : List (Moment ω) :=
  .read lines.fire .byte answers.fire ::
    match answers.fire with
    | .ok _ => [.read lines.pot .word answers.pot]
    | .error _ => []

end LineAnswers

/-- What is heard of a port with these lines. -/
def Answered.heard (answered : Answered) (lines : PortLines) : Heard :=
  ⟨answered.counters, answered.lines.buttons lines⟩

/-- The first failure of a visit. -/
def Heard.failure? (heard : Heard) : Option BusError :=
  (failureOf heard.counters).or (failureOf heard.buttons)

/-- Reads the button lines of a port. -/
def PortLines.ask [RegisterBus β] (lines : PortLines) (bus : β) : LineAnswers × β :=
  let (fire, bus) := RegisterBus.read lines.fire .byte bus
  match fire with
  | .error cause => (⟨.error cause, .error cause⟩, bus)
  | .ok word =>
    let (pot, bus) := RegisterBus.read lines.pot .word bus
    (⟨.ok word, pot⟩, bus)

/-- Makes the reads of a visit. -/
def Port.ask [RegisterBus β] (map : RegisterMap) (port : Port) (bus : β) : Answered × β :=
  let (counters, bus) := RegisterBus.read (port.lines map).counters .word bus
  let (answers, bus) := (port.lines map).ask bus
  (⟨counters, answers⟩, bus)

/-! ## One visit -/

namespace Mouse

@[simp] theorem setState_stateOf (mouse : Mouse) (port : Port) :
    mouse.setState port (mouse.stateOf port) = mouse := by cases port <;> rfl

/-- Mice that differ in the states of their ports only. -/
structure SameMakeup (mouse after : Mouse) : Prop where
  map_eq : after.map = mouse.map
  ports_eq : after.ports = mouse.ports
  maxDelta_eq : after.maxDelta = mouse.maxDelta

theorem SameMakeup.refl (mouse : Mouse) : mouse.SameMakeup mouse := ⟨rfl, rfl, rfl⟩

theorem SameMakeup.trans {mouse after later : Mouse} (h : mouse.SameMakeup after)
    (h' : after.SameMakeup later) : mouse.SameMakeup later :=
  ⟨h'.map_eq.trans h.map_eq, h'.ports_eq.trans h.ports_eq, h'.maxDelta_eq.trans h.maxDelta_eq⟩

theorem SameMakeup.setState {mouse after : Mouse} (h : mouse.SameMakeup after) (port : Port)
    (state : MouseState) : mouse.SameMakeup (after.setState port state) :=
  h.trans ⟨after.map_setState .., after.ports_setState .., after.maxDelta_setState ..⟩

/-- A visit of a port of these mice. -/
def hear (mouse : Mouse) (port : Port) (heard : Heard) : List Remark × MouseState :=
  (mouse.stateOf port).hear port mouse.maxDelta heard

/-- A visit does not depend on the states of other ports. -/
theorem hear_setState_ne {mouse : Mouse} {port other : Port} (state : MouseState)
    (h : other ≠ port) (heard : Heard) :
    (mouse.setState port state).hear other heard = mouse.hear other heard := by
  unfold hear
  rw [stateOf_setState_ne _ _ h, maxDelta_setState]

/-- All that happens on a visit: the counters are read and motion is reported, then the other
lines are read and the edges are reported. -/
def visitMoments (mouse : Mouse) (port : Port) (answered : Answered) : List (Moment Remark) :=
  let lines := port.lines mouse.map
  let moved := (mouse.stateOf port).hearCounters port mouse.maxDelta answered.counters
  let pressed := moved.2.hearButtons (answered.lines.buttons lines)
  .read lines.counters .word answered.counters :: moved.1.map .remark ++
    (answered.lines.reads lines ++ pressed.1.map .remark)

theorem visitMoments_setState_ne {mouse : Mouse} {port other : Port} (state : MouseState)
    (h : other ≠ port) (answered : Answered) :
    (mouse.setState port state).visitMoments other answered =
      mouse.visitMoments other answered := by
  unfold visitMoments
  rw [stateOf_setState_ne _ _ h, maxDelta_setState, map_setState]

theorem remarks_visitMoments (mouse : Mouse) (port : Port) (answered : Answered) :
    (mouse.visitMoments port answered).filterMap Moment.remark? =
      (mouse.hear port (answered.heard (port.lines mouse.map))).1 := by
  have hremarks : ∀ outs : List Remark,
      (outs.map (Moment.remark (ω := Remark))).filterMap Moment.remark? = outs := by
    intro outs
    rw [List.filterMap_map]
    exact List.filterMap_some
  have hreads : (answered.lines.reads (port.lines mouse.map)).filterMap
      (Moment.remark? (ω := Remark)) = [] := by
    unfold LineAnswers.reads
    cases answered.lines.fire <;> rfl
  unfold visitMoments
  dsimp only
  rw [List.cons_append, List.filterMap_cons_none (by rfl), List.filterMap_append,
    List.filterMap_append, hremarks, hremarks, hreads]
  rfl

section Visit

variable [RegisterBus β] {mouse : Mouse} {port : Port}

/-- The motion half of a visit: one read, and what is said then. -/
theorem pollMotion_heard (hport : port ∈ mouse.ports) (bus : β) :
    let read := RegisterBus.read (port.lines mouse.map).counters .word bus
    let half := (mouse.stateOf port).hearCounters port mouse.maxDelta read.1
    (mouse.pollMotion port).run bus =
        ⟨(failureOf read.1, mouse.setState port half.2), read.2, half.1⟩ ∧
      (mouse.pollMotion port).history bus =
        .read (port.lines mouse.map).counters .word read.1 :: half.1.map .remark := by
  rw [pollMotion_eq hport]
  simp only [Program.run, Program.history]
  obtain ⟨answer, left⟩ := RegisterBus.read (port.lines mouse.map).counters .word bus
  cases answer with
  | error cause =>
    refine ⟨?_, rfl⟩
    simp only [MouseState.hearCounters, setState_stateOf]
    rfl
  | ok word =>
    refine ⟨?_, ?_⟩
    · rw [Program.run_bind, Program.run_remarks]
      simp only [Program.run, List.append_nil]
      rfl
    · rw [Program.history_bind, Program.history_remarks]
      simp only [Program.history, List.append_nil]
      rfl

/-- The button half of a visit: the lines are read, and what is said then. -/
theorem pollButtons_heard (mouse : Mouse) (port : Port) (bus : β) :
    let lines := port.lines mouse.map
    let asked := lines.ask bus
    let half := (mouse.stateOf port).hearButtons (asked.1.buttons lines)
    (mouse.pollButtons port).run bus =
        ⟨(failureOf (asked.1.buttons lines), mouse.setState port half.2), asked.2, half.1⟩ ∧
      (mouse.pollButtons port).history bus = asked.1.reads lines ++ half.1.map .remark := by
  rw [pollButtons_eq]
  simp only [Program.run, Program.history, PortLines.ask]
  obtain ⟨fire, between⟩ := RegisterBus.read (port.lines mouse.map).fire .byte bus
  cases fire with
  | error cause =>
    refine ⟨?_, rfl⟩
    show _ = (⟨(_, mouse.setState port (mouse.stateOf port)), _, _⟩ : Program.Run ..)
    rw [setState_stateOf]
    rfl
  | ok fire =>
    simp only [Program.run, Program.history]
    obtain ⟨pot, left⟩ := RegisterBus.read (port.lines mouse.map).pot .word between
    cases pot with
    | error cause =>
      refine ⟨?_, rfl⟩
      show _ = (⟨(_, mouse.setState port (mouse.stateOf port)), _, _⟩ : Program.Run ..)
      rw [setState_stateOf]
      rfl
    | ok pot =>
      refine ⟨?_, ?_⟩
      · dsimp only
        rw [Program.run_bind, Program.run_remarks]
        simp only [Program.run, List.append_nil]
        rfl
      · dsimp only
        rw [Program.history_bind, Program.history_remarks]
        simp only [Program.history, List.append_nil]
        rfl

/-- A poll of some ports is a visit of the first, and a poll of the others on what it leaves. -/
theorem pollPorts_cons (hport : port ∈ mouse.ports) (rest : List Port) (bus : β) :
    let asked := port.ask mouse.map bus
    let heard := asked.1.heard (port.lines mouse.map)
    let later := (mouse.setState port (mouse.hear port heard).2).pollPorts rest
    (mouse.pollPorts (port :: rest)).run bus =
        ⟨(heard.failure?.or (later.run asked.2).value.1, (later.run asked.2).value.2),
          (later.run asked.2).bus, (mouse.hear port heard).1 ++ (later.run asked.2).remarks⟩ ∧
      (mouse.pollPorts (port :: rest)).history bus =
        mouse.visitMoments port asked.1 ++ later.history asked.2 := by
  intro asked heard later
  let read := RegisterBus.read (port.lines mouse.map).counters .word bus
  let moved := mouse.setState port
    ((mouse.stateOf port).hearCounters port mouse.maxDelta read.1).2
  obtain ⟨hmoved, hmoves⟩ := pollMotion_heard hport bus
  obtain ⟨hpressed, hedges⟩ := moved.pollButtons_heard port read.2
  simp only [moved, stateOf_setState_self, setState_setState, map_setState] at hpressed hedges
  refine ⟨?_, ?_⟩
  · rw [pollPorts, Program.run_bind, Program.run_bind, Program.run_bind, hmoved]
    dsimp only
    rw [hpressed]
    dsimp only
    rw [Program.run_pure, List.append_nil, ← List.append_assoc]
    rfl
  · rw [pollPorts, Program.history_bind, hmoved, hmoves]
    dsimp only
    rw [Program.history_bind, hpressed, hedges]
    dsimp only
    rw [Program.history_bind, Program.history_pure, List.append_nil, ← List.append_assoc]
    rfl

/-- A poll is a poll of its ports, and fails with the first of their failures. -/
theorem run_poll (mouse : Mouse) (bus : β) :
    let ran := (mouse.pollPorts mouse.ports).run bus
    mouse.poll.run bus =
        ⟨(ran.value.1.elim (.ok ()) .error, ran.value.2), ran.bus, ran.remarks⟩ ∧
      mouse.poll.history bus = (mouse.pollPorts mouse.ports).history bus := by
  unfold poll
  rw [Program.run_bind, Program.history_bind]
  obtain ⟨⟨failure, after⟩, left, remarks⟩ := (mouse.pollPorts mouse.ports).run bus
  -- No access is made after those of the ports.
  cases failure <;> simp

end Visit

end Mouse

end InputBridge
