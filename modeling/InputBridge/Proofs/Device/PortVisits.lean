import InputBridge.Proofs.Device.Answers

/-!
# Visits of ports

A poll of the mouse visits its ports one after the other, and on each visit a port does what
`MouseState.hear` makes of the answers that it gets. If the ports are distinct, these are the
answers of its one visit (`Mouse.answers`), and no visit touches another port:
`Mouse.poll_visits` says so of what happens in a poll and of the states after it.

What a mouse says does not name the port. `attributed` tells the ports apart: a remark
belongs to the port whose counters were read last before it, and nothing that is said is
left out (`attributed_remarks`). So what is said of a port in a poll is what it says on its
visit (`Mouse.poll_heard`).
-/

namespace InputBridge

/-! ## Which port it was -/

/-- The port whose counters are at this address. -/
def RegisterMap.portAt? (map : RegisterMap) (address : Address) : Option Port :=
  Port.all.find? fun port => (port.lines map).counters = address

/-- The remarks of a history, each with the port whose counters were read last before it. -/
def attributed (map : RegisterMap) : Option Port → List (Moment Remark) →
    List (Option Port × Remark)
  | _, [] => []
  | current, .read address _ _ :: rest => attributed map ((map.portAt? address).or current) rest
  | current, .write .. :: rest => attributed map current rest
  | current, .remark out :: rest => (current, out) :: attributed map current rest

/-- What is said of one port. -/
def saidOf (port : Port) (said : List (Option Port × Remark)) : List Remark :=
  said.filterMap fun (which, remark) => if which = some port then some remark else none

/-- Every remark is attributed once. -/
theorem attributed_remarks (map : RegisterMap) :
    ∀ (current : Option Port) (history : List (Moment Remark)),
      (attributed map current history).map Prod.snd = history.filterMap Moment.remark?
  | _, [] => rfl
  | _, .read .. :: rest => attributed_remarks map _ rest
  | current, .write .. :: rest => attributed_remarks map current rest
  | current, .remark out :: rest => congrArg (List.cons out) (attributed_remarks map current rest)

theorem attributed_append_remarks (map : RegisterMap) (current : Option Port)
    (later : List (Moment Remark)) : ∀ outs : List Remark,
      attributed map current (outs.map .remark ++ later) =
        outs.map (current, ·) ++ attributed map current later
  | [] => rfl
  | _ :: rest => congrArg (List.cons _) (attributed_append_remarks map current later rest)

theorem saidOf_append (port : Port) (said later : List (Option Port × Remark)) :
    saidOf port (said ++ later) = saidOf port said ++ saidOf port later := List.filterMap_append

/-- What is said on a visit is said of the port that is visited. -/
theorem saidOf_visit (port visited : Port) (remarks : List Remark) :
    saidOf port (remarks.map (some visited, ·)) = if visited = port then remarks else [] := by
  unfold saidOf
  rw [List.filterMap_map]
  by_cases heq : visited = port
  · rw [if_pos heq, heq]
    simp
  · rw [if_neg heq]
    simp [heq]

/-- If each port is visited once, what is said of a port is what is said on its visit. -/
theorem saidOf_visits (remarks : Port → List Remark) (port : Port) :
    ∀ {visits : List Port}, visits.Nodup →
      saidOf port (visits.flatMap fun visited => (remarks visited).map (some visited, ·)) =
        if port ∈ visits then remarks port else []
  | [], _ => rfl
  | visited :: rest, hnodup => by
    obtain ⟨hnot, hnodup⟩ := List.nodup_cons.mp hnodup
    rw [List.flatMap_cons, saidOf_append, saidOf_visit, saidOf_visits remarks port hnodup]
    by_cases heq : visited = port
    · subst heq
      rw [if_pos rfl, if_neg hnot, if_pos (List.mem_cons_self ..), List.append_nil]
    · rw [if_neg heq, List.nil_append]
      simp [Ne.symm heq]

section Lines

variable (chipset : Chipset) (port : Port)

theorem portAt?_counters :
    (RegisterMap.forChipset chipset).portAt? (port.lines (.forChipset chipset)).counters =
      some port := by
  cases chipset <;> cases port <;> decide

theorem portAt?_fire :
    (RegisterMap.forChipset chipset).portAt? (port.lines (.forChipset chipset)).fire = none := by
  cases chipset <;> cases port <;> decide

theorem portAt?_pot :
    (RegisterMap.forChipset chipset).portAt? (port.lines (.forChipset chipset)).pot = none := by
  cases chipset <;> cases port <;> decide

end Lines

/-- All that is said on a visit is attributed to its port: its counters are read first, and the
lines of the buttons are at no counters. -/
theorem Mouse.attributed_visit {chipset : Chipset} {mouse : Mouse}
    (hmap : mouse.map = .forChipset chipset)
    (port : Port) (answered : Answered) (current : Option Port) (later : List (Moment Remark)) :
    attributed (.forChipset chipset) current (mouse.visitMoments port answered ++ later) =
      (mouse.hear port (answered.heard (port.lines mouse.map))).1.map (some port, ·) ++
        attributed (.forChipset chipset) (some port) later := by
  have hcounters : (RegisterMap.forChipset chipset).portAt? (port.lines mouse.map).counters =
      some port := by
    rw [hmap]
    exact portAt?_counters chipset port
  have hlines : ∀ rest, attributed (.forChipset chipset) (some port)
      (answered.lines.reads (port.lines mouse.map) ++ rest) =
        attributed (.forChipset chipset) (some port) rest := by
    intro rest
    unfold LineAnswers.reads
    rw [hmap, List.cons_append, attributed, portAt?_fire]
    cases answered.lines.fire with
    | error cause => rfl
    | ok fire =>
      dsimp only
      rw [List.cons_append, attributed, portAt?_pot]
      rfl
  unfold Mouse.visitMoments
  dsimp only
  rw [List.cons_append, List.cons_append, attributed, hcounters, Option.some_or, List.append_assoc,
    List.append_assoc, attributed_append_remarks, hlines, attributed_append_remarks,
    ← List.append_assoc, ← List.map_append]
  rfl

namespace Mouse

/-! ## The visits of a poll -/

/-- The mice after some ports were visited, with what was heard on each visit. -/
structure Told (heard : Port → Heard) (visits : List Port) (mouse after : Mouse) : Prop where
  sameMakeup : mouse.SameMakeup after
  visited : ∀ port ∈ visits, after.stateOf port = (mouse.hear port (heard port)).2
  others : ∀ port ∉ visits, after.stateOf port = mouse.stateOf port

/-- What each port is answered, if ports are asked one after the other and each once. -/
def answers {β : Type} [RegisterBus β] (map : RegisterMap) : List Port → β → Port → Answered
  | [], _, _ => ⟨.ok 0, ⟨.ok 0, .ok 0⟩⟩
  | port :: rest, bus, other =>
    let asked := port.ask map bus
    if other = port then asked.1 else answers map rest asked.2 other

variable {β : Type} [RegisterBus β] {chipset : Chipset}

/-- Ports are visited one after the other, each once. -/
theorem pollPorts_heard : ∀ {visits : List Port} {mouse : Mouse}, visits.Nodup →
    (∀ port ∈ visits, port ∈ mouse.ports) → ∀ bus : β,
    let answered := answers mouse.map visits bus
    (mouse.Told (fun port => (answered port).heard (port.lines mouse.map)) visits
        ((mouse.pollPorts visits).run bus).value.2) ∧
      (mouse.pollPorts visits).history bus =
        visits.flatMap fun port => mouse.visitMoments port (answered port)
  | [], mouse, _, _, bus => ⟨⟨.refl mouse, nofun, fun _ _ => rfl⟩, rfl⟩
  | port :: rest, mouse, hnodup, hin, bus => by
    intro answered
    obtain ⟨hnot, hnodup⟩ := List.nodup_cons.mp hnodup
    obtain ⟨hrun, hhistory⟩ := pollPorts_cons (hin port (List.mem_cons_self ..)) rest bus
    let asked := port.ask mouse.map bus
    let after := mouse.setState port
      (mouse.hear port (asked.1.heard (port.lines mouse.map))).2
    have hmap : after.map = mouse.map := mouse.map_setState ..
    have hports : after.ports = mouse.ports := mouse.ports_setState ..
    have hrest : ∀ other ∈ rest, other ∈ after.ports :=
      fun other hother => hports ▸ hin other (List.mem_cons_of_mem _ hother)
    obtain ⟨htold, hmoments⟩ := pollPorts_heard hnodup hrest asked.2
    -- Each port is visited once, so what it is answered is what its visit is answered.
    have hfirst : answered port = asked.1 := if_pos rfl
    have hlater : ∀ other ∈ rest, other ≠ port ∧
        answered other = answers after.map rest asked.2 other := by
      intro other hother
      have hne : other ≠ port := fun heq => hnot (heq ▸ hother)
      rw [hmap]
      exact ⟨hne, if_neg hne⟩
    rw [hrun, hhistory]
    refine ⟨⟨?_, fun other hother => ?_, fun other hout => ?_⟩, ?_⟩
    · exact ((SameMakeup.refl mouse).setState port _).trans htold.sameMakeup
    · by_cases heq : other = port
      · rw [heq, htold.others port hnot, stateOf_setState_self, hfirst]
      · have hin := (List.mem_cons.mp hother).resolve_left heq
        rw [htold.visited other hin, hear_setState_ne _ heq, (hlater other hin).2, hmap]
    · obtain ⟨hne, hout⟩ := List.ne_and_not_mem_of_not_mem_cons hout
      rw [htold.others other hout, stateOf_setState_ne _ _ hne]
    · rw [hmoments, List.flatMap_cons, hfirst, List.flatMap_congr fun other hother => ?_]
      obtain ⟨hne, hsame⟩ := hlater other hother
      rw [hsame]
      exact visitMoments_setState_ne _ hne _

/-- What is said in visits of ports is what each of them says. -/
theorem remarks_visits (mouse : Mouse) (answered : Port → Answered) (visits : List Port) :
    (visits.flatMap fun port => mouse.visitMoments port (answered port)).filterMap
        Moment.remark? =
      visits.flatMap fun port =>
        (mouse.hear port ((answered port).heard (port.lines mouse.map))).1 := by
  rw [List.filterMap_flatMap]
  exact List.flatMap_congr fun port _ => remarks_visitMoments ..

theorem attributed_visits {mouse : Mouse} (hmap : mouse.map = .forChipset chipset)
    (answered : Port → Answered) : ∀ (visits : List Port) (current : Option Port),
      attributed (.forChipset chipset) current
          (visits.flatMap fun port => mouse.visitMoments port (answered port)) =
        visits.flatMap fun port =>
          (mouse.hear port ((answered port).heard (port.lines mouse.map))).1.map (some port, ·)
  | [], _ => rfl
  | port :: rest, current => by
    rw [List.flatMap_cons, attributed_visit hmap, attributed_visits hmap answered rest,
      List.flatMap_cons]

/-- What a port hears in a poll. -/
def heardIn (mouse : Mouse) (bus : β) (port : Port) : Heard :=
  (answers mouse.map mouse.ports bus port).heard (port.lines mouse.map)

/-- A poll visits every port. -/
theorem poll_visits {mouse : Mouse} (hnodup : mouse.ports.Nodup) (bus : β) :
    mouse.Told (mouse.heardIn bus) mouse.ports (pollOnce Mouse.poll mouse bus).after ∧
      mouse.poll.history bus = mouse.ports.flatMap fun port =>
        mouse.visitMoments port (answers mouse.map mouse.ports bus port) := by
  obtain ⟨htold, hmoments⟩ := pollPorts_heard hnodup (fun _ hin => hin) bus
  obtain ⟨hrun, hhistory⟩ := mouse.run_poll bus
  refine ⟨?_, hhistory.trans hmoments⟩
  show mouse.Told _ _ (mouse.poll.run bus).value.2
  rw [hrun]
  exact htold

/-- A poll says what is said on its visits, and what is said of a port is said on its visit. -/
theorem poll_heard {mouse : Mouse} (hmap : mouse.map = .forChipset chipset)
    (hnodup : mouse.ports.Nodup) (bus : β) :
    (pollOnce Mouse.poll mouse bus).left.remarks =
        mouse.ports.flatMap (fun port => (mouse.hear port (mouse.heardIn bus port)).1) ∧
      ∀ port, saidOf port (attributed (.forChipset chipset) none (mouse.poll.history bus)) =
        if port ∈ mouse.ports then (mouse.hear port (mouse.heardIn bus port)).1 else [] := by
  obtain ⟨-, hhistory⟩ := poll_visits hnodup bus
  have hattributed : attributed (.forChipset chipset) none (mouse.poll.history bus) =
      mouse.ports.flatMap fun port =>
        (mouse.hear port (mouse.heardIn bus port)).1.map (some port, ·) := by
    rw [hhistory, attributed_visits hmap]
    rfl
  refine ⟨?_, fun port => ?_⟩
  · -- Every remark is attributed, so leaving out the ports leaves what the poll says.
    show (mouse.poll.run bus).remarks = _
    rw [Program.remarks_run, ← attributed_remarks (.forChipset chipset) none, hattributed,
      List.map_flatMap]
    exact List.flatMap_congr fun port _ => by simp
  · rw [hattributed, saidOf_visits _ port hnodup]

end Mouse

end InputBridge
