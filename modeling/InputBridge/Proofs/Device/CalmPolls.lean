import InputBridge.Proofs.Device.KeyEdges
import InputBridge.Proofs.Device.OnCalmBus
import InputBridge.Proofs.Device.PenStates
import InputBridge.Proofs.Device.PortVisits

/-!
# Polls on a calm register file

On a calm register file every poll goes through, so that a poll is a function of the device
and of what it senses: `poll_calm` says for each device what it attempts and what becomes of
it. The keyboard leaves no column selected; mouse and pen leave the registers as they are.

What the ports of a mouse hear is their lines as they are, whatever was read before
(`Mouse.hear_calm`), so that a poll visits every port with the same registers.
-/

namespace InputBridge

open MemoryBus (SameOutside)

/-! ## The keyboard -/

theorem Keyboard.poll_calm (keyboard : Keyboard) {bus : MemoryBus} (hcalm : bus.Calm) :
    let polled := pollOnce Keyboard.poll keyboard bus
    polled.events =
        Position.all.filterMap (edgeAt keyboard.keymap keyboard.held (bus.matrix keyboard)) ∧
      polled.answer.isOk = true ∧
      polled.after = { keyboard with held := bus.matrix keyboard } ∧
      polled.left.bus.Calm ∧ SameOutside [] polled.left.bus (bus.deselected keyboard) := by
  intro polled
  obtain ⟨after, hrun, hafter, hsame⟩ := keyboard.run_scan (ω := Remark) hcalm
  have hscan : polled.scan = .ok (bus.matrix keyboard) := congrArg Program.Run.value hrun
  obtain ⟨hevents, hanswer, hkept⟩ := poll_of_scan_ok hscan
  have hbus : polled.left.bus = after := by
    show (keyboard.poll.run bus).bus = after
    unfold Keyboard.poll Keyboard.process
    rw [Program.run_bind, hrun]
    simp only [Program.run_bind, Program.run_remarks, Program.run_pure]
  refine ⟨hevents, ?_, hkept, ?_, ?_⟩
  · rw [hanswer]
    rfl
  · rw [hbus]
    exact hafter
  · rw [hbus]
    exact hsame

/-! ## The mouse -/

/-- A visit of a port: what is said of it, and its state after it. -/
def MouseState.visit (state : MouseState) (port : Port) (lines : PortLines) (bound : Int32)
    (bus : MemoryBus) : List Remark × MouseState :=
  let counted := state.count (bus.steady lines.counters) bound
  let buttons := bus.buttonsAt lines
  (Mouse.motionRemarks port counted.1 counted.2.pending ++
      (buttonEdges (buttons ^^^ state.buttons) buttons).map .event,
    { counted.2 with buttons })

namespace Mouse

/-- A visit of a port of these mice. -/
def visit (mouse : Mouse) (bus : MemoryBus) (port : Port) : List Remark × MouseState :=
  (mouse.stateOf port).visit port (port.lines mouse.map) mouse.maxDelta bus

variable {bus running : MemoryBus} {mouse : Mouse} {port : Port}

/-- What a port is answered: its counters and its buttons, as they are. -/
theorem ask_calm (map : RegisterMap) (port : Port) (hcalm : running.Calm)
    (hsame : SameOutside [] running bus) :
    ∃ answered, port.ask map running = (answered, running.counted.counted.counted) ∧
      answered.heard (port.lines map) =
        ⟨.ok (bus.steady (port.lines map).counters), .ok (bus.buttonsAt (port.lines map))⟩ := by
  have hcounters : running.steady (port.lines map).counters =
      bus.steady (port.lines map).counters := hsame.steady_eq _
  have hbuttons : (port.lines map).pressed
      (running.counted.steady (port.lines map).fire &&& Width.byte.mask).toUInt8
      (running.counted.counted.steady (port.lines map).pot) =
        bus.buttonsAt (port.lines map) := by
    rw [MemoryBus.toUInt8_masked]
    exact MemoryBus.buttonsAt_congr (hsame.steady_eq _) (hsame.steady_eq _)
  unfold Port.ask PortLines.ask
  rw [(hcalm.clear _).readWord_eq]
  dsimp only
  rw [(hcalm.counted.clear _).read_eq]
  dsimp only
  rw [(hcalm.counted.counted.clear _).readWord_eq, hcounters]
  refine ⟨_, rfl, ?_⟩
  rw [← hbuttons]
  rfl

/-- Every port is answered with its lines as they are, however many were asked before it. -/
theorem heard_answers_calm (map : RegisterMap) : ∀ {visits : List Port} {running : MemoryBus},
    running.Calm → SameOutside [] running bus → ∀ port ∈ visits,
      (answers map visits running port).heard (port.lines map) =
        ⟨.ok (bus.steady (port.lines map).counters), .ok (bus.buttonsAt (port.lines map))⟩
  | [], _, _, _, _, hin => absurd hin List.not_mem_nil
  | first :: rest, running, hcalm, hsame, port, hin => by
    obtain ⟨answered, hask, hheard⟩ := ask_calm map first hcalm hsame
    have hanswers : answers map (first :: rest) running port = if port = first then answered
        else answers map rest running.counted.counted.counted port := by
      rw [answers, hask]
    by_cases heq : port = first
    · rw [hanswers, if_pos heq, heq]
      exact hheard
    · rw [hanswers, if_neg heq]
      exact heard_answers_calm map hcalm.counted.counted.counted hsame.counted.counted.counted port
        ((List.mem_cons.mp hin).resolve_left heq)

/-- So on its visit in a poll, a port goes by its lines as they are. -/
theorem hear_calm (hcalm : bus.Calm) (hport : port ∈ mouse.ports) :
    mouse.hear port (mouse.heardIn bus port) = mouse.visit bus port := by
  unfold heardIn
  rw [heard_answers_calm mouse.map hcalm (SameOutside.refl [] bus) port hport]
  rfl

/-- All reads of the ports succeed, and the register file stays as it is. -/
theorem pollPorts_calm : ∀ {visits : List Port} {mouse : Mouse} {running : MemoryBus},
    (∀ port ∈ visits, port ∈ mouse.ports) → running.Calm → SameOutside [] running bus →
    let ran := (mouse.pollPorts visits).run running
    ran.value.1 = none ∧ ran.bus.Calm ∧ SameOutside [] ran.bus bus
  | [], _, _, _, hcalm, hsame => ⟨rfl, hcalm, hsame⟩
  | port :: rest, mouse, running, hin, hcalm, hsame => by
    intro ran
    obtain ⟨hrun, -⟩ := pollPorts_cons (hin port (List.mem_cons_self ..)) rest running
    obtain ⟨answered, hask, hheard⟩ := ask_calm mouse.map port hcalm hsame
    rw [hask, hheard] at hrun
    have hrest : ∀ other ∈ rest,
        other ∈ (mouse.setState port (mouse.visit bus port).2).ports := by
      intro other hother
      rw [ports_setState]
      exact hin other (List.mem_cons_of_mem _ hother)
    obtain ⟨hnone, hleft⟩ :=
      pollPorts_calm hrest hcalm.counted.counted.counted hsame.counted.counted.counted
    exact ⟨(congrArg (·.value.1) hrun).trans hnone, congrArg Program.Run.bus hrun ▸ hleft⟩

theorem visit_congr {bus' : MemoryBus} (h : SameOutside [] bus bus') :
    mouse.visit bus port = mouse.visit bus' port := by
  unfold visit MouseState.visit
  rw [h.steady_eq, MemoryBus.buttonsAt_congr (h.steady_eq _) (h.steady_eq _)]

/-- The state of a port after every enabled port was visited. -/
def stateVisited (mouse : Mouse) (bus : MemoryBus) (port : Port) : MouseState :=
  if port ∈ mouse.ports then (mouse.visit bus port).2 else mouse.stateOf port

/-- The mice after every enabled port was visited. -/
def visited (mouse : Mouse) (bus : MemoryBus) : Mouse :=
  { mouse with state0 := mouse.stateVisited bus .port0, state1 := mouse.stateVisited bus .port1 }

theorem stateOf_visited (mouse : Mouse) (bus : MemoryBus) {port : Port}
    (h : port ∈ mouse.ports) : (mouse.visited bus).stateOf port = (mouse.visit bus port).2 := by
  cases port <;> exact if_pos h

theorem stateOf_visited_of_notMem (mouse : Mouse) (bus : MemoryBus) {port : Port}
    (h : port ∉ mouse.ports) : (mouse.visited bus).stateOf port = mouse.stateOf port := by
  cases port <;> exact if_neg h

theorem visited_congr {bus' : MemoryBus} (h : SameOutside [] bus bus') :
    mouse.visited bus = mouse.visited bus' := by
  unfold visited stateVisited
  rw [visit_congr h, visit_congr h]

/-- Visiting every port is visiting the enabled ones. -/
theorem Told.eq_visited (hcalm : bus.Calm) {after : Mouse}
    (h : mouse.Told (mouse.heardIn bus) mouse.ports after) : after = mouse.visited bus := by
  have hstate : ∀ port, after.stateOf port = mouse.stateVisited bus port := by
    intro port
    unfold stateVisited
    by_cases hin : port ∈ mouse.ports
    · rw [if_pos hin, h.visited port hin, hear_calm hcalm hin]
    · rw [if_neg hin, h.others port hin]
  have h0 : after.state0 = mouse.stateVisited bus .port0 := hstate .port0
  have h1 : after.state1 = mouse.stateVisited bus .port1 := hstate .port1
  obtain ⟨hmap, hports, hmaxDelta⟩ := h.sameMakeup
  unfold Mouse.visited
  rw [← h0, ← h1, ← hmap, ← hports, ← hmaxDelta]

/-- A poll visits every port, and all that is said of a port is said on its visit. -/
theorem poll_calm {chipset : Chipset} (hmap : mouse.map = .forChipset chipset)
    (hnodup : mouse.ports.Nodup) (hcalm : bus.Calm) :
    let polled := pollOnce Mouse.poll mouse bus
    polled.left.remarks = (mouse.ports.flatMap fun port => (mouse.visit bus port).1) ∧
      polled.answer = .ok () ∧ polled.after = mouse.visited bus ∧
      polled.left.bus.Calm ∧ SameOutside [] polled.left.bus bus ∧
      ∀ port, saidOf port (attributed (.forChipset chipset) none (mouse.poll.history bus)) =
        if port ∈ mouse.ports then (mouse.visit bus port).1 else [] := by
  intro polled
  obtain ⟨htold, -⟩ := poll_visits hnodup bus
  obtain ⟨hremarks, hsaid⟩ := poll_heard hmap hnodup bus
  obtain ⟨hnone, hleft⟩ := pollPorts_calm (fun _ hin => hin) hcalm (SameOutside.refl [] bus)
  obtain ⟨hrun, -⟩ := mouse.run_poll bus
  have hanswer : polled.answer = .ok () := by
    show (mouse.poll.run bus).value.1 = _
    rw [hrun, hnone]
    rfl
  have hbus : polled.left.bus = ((mouse.pollPorts mouse.ports).run bus).bus :=
    congrArg Program.Run.bus hrun
  rw [hbus]
  refine ⟨?_, hanswer, htold.eq_visited hcalm, hleft.1, hleft.2, fun port => ?_⟩
  · rw [hremarks]
    exact List.flatMap_congr fun port hport => congrArg Prod.fst (hear_calm hcalm hport)
  · rw [hsaid port]
    by_cases hport : port ∈ mouse.ports
    · rw [if_pos hport, if_pos hport, hear_calm hcalm hport]
    · rw [if_neg hport, if_neg hport]

end Mouse

/-! ## The pen -/

theorem Lightpen.poll_calm (pen : Lightpen) {bus : MemoryBus} (hcalm : bus.Calm) :
    let polled := pollOnce Lightpen.poll pen bus
    polled.left.remarks = pen.state.remarks (bus.seenBy pen) ∧ polled.answer = .ok () ∧
      polled.after = { pen with state := pen.state.next (bus.seenBy pen) } ∧
      polled.left.bus.Calm ∧ SameOutside [] polled.left.bus bus := by
  intro polled
  obtain ⟨after, hrun, hafter, hsame⟩ := pen.run_sense (ω := Remark) hcalm
  have hpolled : polled.left = ⟨(.ok (), { pen with state := pen.state.next (bus.seenBy pen) }),
      after, pen.state.remarks (bus.seenBy pen)⟩ := by
    have hpoll : pen.poll = pen.sense.run >>= pen.conclude := rfl
    show pen.poll.run bus = _
    rw [hpoll, Program.run_bind, hrun, pen.run_conclude_ok]
    rfl
  unfold Polled.answer Polled.after
  rw [hpolled]
  exact ⟨rfl, rfl, rfl, hafter, hsame⟩

end InputBridge
