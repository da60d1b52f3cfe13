import InputBridge.Bus.Memory
import InputBridge.Proofs.Device.MouseMotion
import InputBridge.Proofs.Device.Polls
import Mathlib.Data.List.Chain

/-!
# Runs of the mouse

What a run of polls did to one port is read off its history: the spots from the
words that successful reads of the port's counters answered (`answersAt`), the
reports from the moves between such a read and the next access (`movesAfter`).
`Tracked` says that the port agrees with both. A read of the counters that
succeeds is one counted step (`Tracked.count`); everything else that happens, a
failed read, the buttons, the other port, leaves the port alone (`Tracked.pass`).
`mouse_motion_adds_up` is what follows for whole runs.
-/

namespace InputBridge

/-! ## Motion and reports in a history -/

/-- The word that a moment got from a register, if it is a successful read of it. -/
def Moment.answerAt {ω : Type} (address : Address) : Moment ω → Option UInt16
  | .read source _ (.ok word) => if source = address then some word else none
  | _ => none

/-- The words that successful reads of a register answered, in order. -/
def answersAt {ω : Type} (address : Address) (history : List (Moment ω)) : List UInt16 :=
  history.filterMap (Moment.answerAt address)

/-- The remarks that open a history, before any access. -/
def openingRemarks {ω : Type} : List (Moment ω) → List ω
  | .remark out :: rest => out :: openingRemarks rest
  | _ => []

/-- The delta of a remark, if it is a move along this axis. -/
def moveAlong (axis : RelativeAxis) : Remark → Option Int32
  | .event (.relative which delta) => if which = axis then some delta else none
  | _ => none

/-- The moves along an axis that are attempted after a read of a register and before
the next access. -/
def movesAfter (address : Address) (axis : RelativeAxis) : List (Moment Remark) → List Int32
  | [] => []
  | .read source _ _ :: rest =>
    (if source = address then (openingRemarks rest).filterMap (moveAlong axis) else []) ++
      movesAfter address axis rest
  | _ :: rest => movesAfter address axis rest

theorem openingRemarks_append {ω : Type} {later : List (Moment ω)}
    (h : openingRemarks later = []) :
    ∀ earlier : List (Moment ω), openingRemarks (earlier ++ later) = openingRemarks earlier
  | [] => h
  | .remark out :: rest => congrArg (List.cons out) (openingRemarks_append h rest)
  | .read .. :: _ => rfl
  | .write .. :: _ => rfl

/-- A history that opens with an access takes nothing from the reads before it. -/
theorem movesAfter_append {address : Address} {axis : RelativeAxis}
    {later : List (Moment Remark)} (h : openingRemarks later = []) :
    ∀ earlier : List (Moment Remark), movesAfter address axis (earlier ++ later) =
      movesAfter address axis earlier ++ movesAfter address axis later
  | [] => rfl
  | .read source _ _ :: rest => by
    rw [List.cons_append, movesAfter, movesAfter, openingRemarks_append h,
      movesAfter_append h rest, List.append_assoc]
  | .write .. :: rest => movesAfter_append h rest
  | .remark _ :: rest => movesAfter_append h rest

theorem movesAfter_remarks (address : Address) (axis : RelativeAxis) :
    ∀ outs : List Remark, movesAfter address axis (outs.map .remark) = []
  | [] => rfl
  | _ :: rest => movesAfter_remarks address axis rest

theorem openingRemarks_remarks {ω : Type} :
    ∀ outs : List ω, openingRemarks (outs.map .remark) = outs
  | [] => rfl
  | out :: rest => congrArg (List.cons out) (openingRemarks_remarks rest)

theorem answersAt_append {ω : Type} (address : Address) (earlier later : List (Moment ω)) :
    answersAt address (earlier ++ later) = answersAt address earlier ++ answersAt address later :=
  List.filterMap_append

theorem answersAt_remarks {ω : Type} (address : Address) :
    ∀ outs : List ω, answersAt address (outs.map .remark) = []
  | [] => rfl
  | _ :: rest => answersAt_remarks address rest

theorem answersAt_read_ne {ω : Type} {address source : Address} (h : source ≠ address)
    (width : Width) (answer : Except BusError UInt16) (rest : List (Moment ω)) :
    answersAt address (.read source width answer :: rest) = answersAt address rest := by
  cases answer with
  | error cause => rfl
  | ok word => exact List.filterMap_cons_none (if_neg h)

theorem movesAfter_read_ne {axis : RelativeAxis} {address source : Address}
    (h : source ≠ address) (width : Width) (answer : Except BusError UInt16)
    (rest : List (Moment Remark)) :
    movesAfter address axis (.read source width answer :: rest) = movesAfter address axis rest := by
  rw [movesAfter, if_neg h, List.nil_append]

/-- The moves among the remarks on a report are its parts that are not 0. -/
theorem motionRemarks_moves (port : Port) (report pending : Int32 × Int32) :
    (Mouse.motionRemarks port report pending).filterMap (moveAlong .x) = nonzero report.1 ∧
      (Mouse.motionRemarks port report pending).filterMap (moveAlong .y) = nonzero report.2 := by
  obtain ⟨x, y⟩ := report
  unfold Mouse.motionRemarks nonzero
  rw [List.filterMap_append, List.filterMap_append, List.filterMap_append, List.filterMap_append]
  refine ⟨?_, ?_⟩
  · by_cases hx : x = 0 <;> by_cases hy : y = 0 <;> by_cases hp : pending = (0, 0) <;>
      simp [hx, hy, hp, moveAlong]
  · by_cases hx : x = 0 <;> by_cases hy : y = 0 <;> by_cases hp : pending = (0, 0) <;>
      simp [hx, hy, hp, moveAlong]

/-! ## One visit of a port -/

namespace Mouse

/-- The motion half of a visit, written out: one read, and on success its report. -/
theorem pollMotion_eq {mouse : Mouse} {port : Port} (h : port ∈ mouse.ports) :
    mouse.pollMotion port = .read (port.lines mouse.map).counters .word fun answer =>
      match answer with
      | .error cause => .done (some cause, mouse)
      | .ok word =>
        let counted := (mouse.stateOf port).count word mouse.maxDelta
        Program.remarks (motionRemarks port counted.1 counted.2.pending) >>= fun _ =>
          .done (none, mouse.setState port counted.2) := by
  unfold pollMotion readCounters
  rw [if_pos h, Attempt.run_readWord_bind, Program.read_bind]
  congr 1
  funext answer
  cases answer with
  | error cause => rfl
  | ok word =>
    unfold MouseState.count
    generalize (mouse.stateOf port).latch word = latched
    obtain ⟨moved, state⟩ := latched
    simp only [ExceptT.run_pure, pure_bind, reportMotion, stateOf_setState_self,
      maxDelta_setState]
    generalize state.accumulate moved.1.toInt32 moved.2.toInt32 mouse.maxDelta = accumulated
    obtain ⟨report, state⟩ := accumulated
    simp only [bind_assoc, pure_bind, setState_setState]
    rfl

/-- The button half of a visit, written out: two reads, and on success the edges. -/
theorem pollButtons_eq (mouse : Mouse) (port : Port) :
    mouse.pollButtons port = .read (port.lines mouse.map).fire .byte fun answer =>
      match answer with
      | .error cause => .done (some cause, mouse)
      | .ok fire => .read (port.lines mouse.map).pot .word fun answer =>
        match answer with
        | .error cause => .done (some cause, mouse)
        | .ok pot =>
          let buttons := (port.lines mouse.map).pressed fire.toUInt8 pot
          Program.remarks ((buttonEdges (buttons ^^^ (mouse.stateOf port).buttons) buttons).map
              .event) >>= fun _ =>
            .done (none, mouse.setState port { mouse.stateOf port with buttons }) := by
  unfold pollButtons readButtons
  rw [Attempt.run_readByte_bind, Program.read_bind]
  congr 1
  funext answer
  cases answer with
  | error cause => rfl
  | ok fire =>
    simp only []
    rw [Attempt.run_readWord_bind, Program.read_bind]
    congr 1
    funext answer
    cases answer with
    | error cause => rfl
    | ok pot =>
      simp only [ExceptT.run_pure, pure_bind, reportButtons, bind_assoc]
      rfl

end Mouse

/-! ## Tracking a port through a history -/

/-- If the successful reads of `address` in a history saw a path of near spots, a
port is what that path makes it, and the moves attempted for it are in `history`. -/
def Tracked (address : Address) (port : Port) (history : List (Moment Remark)) (mouse : Mouse) :
    Prop :=
  ∀ path : List Spot, answersAt address history = path.map Spot.counters →
    path.IsChain Spot.Near →
    Follows path (movesAfter address .x history) (movesAfter address .y history)
      (mouse.stateOf port)

section Tracking

variable {address : Address} {port : Port} {history : List (Moment Remark)} {mouse : Mouse}

/-- A stretch of history without an answer or a move leaves a port tracked, as long
as it leaves the motion of the port alone. -/
theorem Tracked.pass (h : Tracked address port history mouse) {stretch : List (Moment Remark)}
    {after : Mouse} (hopen : openingRemarks stretch = [])
    (hanswers : answersAt address stretch = [])
    (hmoves : ∀ axis, movesAfter address axis stretch = [])
    (hlatched : (after.stateOf port).latched = (mouse.stateOf port).latched)
    (hx : (after.stateOf port).x = (mouse.stateOf port).x)
    (hy : (after.stateOf port).y = (mouse.stateOf port).y) :
    Tracked address port (history ++ stretch) after := by
  intro path hpath hnear
  rw [answersAt_append, hanswers, List.append_nil] at hpath
  obtain ⟨hl, hsx, hsy⟩ := h path hpath hnear
  rw [movesAfter_append hopen, movesAfter_append hopen, hmoves, hmoves, List.append_nil,
    List.append_nil]
  exact ⟨hlatched.trans hl, hx.symm ▸ hsx, hy.symm ▸ hsy⟩

/-- A successful read of the counters and its report keep a port tracked. -/
theorem Tracked.count (h : Tracked address port history mouse) (word : UInt16) {after : Mouse}
    {outs : List Remark} {width : Width} (bound : Int32)
    (hx : outs.filterMap (moveAlong .x) =
      nonzero ((mouse.stateOf port).count word bound).1.1)
    (hy : outs.filterMap (moveAlong .y) =
      nonzero ((mouse.stateOf port).count word bound).1.2)
    (hafter : after.stateOf port = ((mouse.stateOf port).count word bound).2) :
    Tracked address port
      (history ++ .read address width (.ok word) :: outs.map .remark) after := by
  intro path hpath hnear
  have hword : answersAt address
      (.read address width (.ok word) :: outs.map Moment.remark) = [word] := by
    have hanswer : Moment.answerAt address (.read address width (.ok word) : Moment Remark)
        = some word := if_pos rfl
    unfold answersAt
    rw [List.filterMap_cons_some hanswer]
    exact congrArg (List.cons word) (answersAt_remarks address outs)
  have hmoves : ∀ axis, movesAfter address axis
      (.read address width (.ok word) :: outs.map Moment.remark) =
      outs.filterMap (moveAlong axis) := by
    intro axis
    rw [movesAfter, if_pos rfl, openingRemarks_remarks, movesAfter_remarks, List.append_nil]
  -- The word of this read is the last of the path, so the path ends in a spot that shows it.
  rw [answersAt_append, hword] at hpath
  obtain ⟨front, back, rfl, hfront, hback⟩ := List.map_eq_append_iff.mp hpath.symm
  obtain ⟨next, rfl, hnext⟩ := List.map_eq_singleton_iff.mp hback
  rw [List.isChain_append] at hnear
  have hstep : ∀ last ∈ front.getLast?, last.Near next :=
    fun last hlast => hnear.2.2 last hlast next rfl
  have hfollows := (h front hfront.symm hnear.1).count hstep bound
  rw [hnext] at hfollows
  rw [movesAfter_append rfl, movesAfter_append rfl, hmoves, hmoves, hx, hy, hafter]
  exact hfollows

end Tracking

/-! ## One poll -/

/-- No other register that the mice are read through is that of the counters of `port`. -/
structure CountersApart (map : RegisterMap) (port : Port) : Prop where
  counters : ∀ other : Port, (other.lines map).counters = (port.lines map).counters → other = port
  fire : ∀ other : Port, (other.lines map).fire ≠ (port.lines map).counters
  pot : ∀ other : Port, (other.lines map).pot ≠ (port.lines map).counters

theorem countersApart_forChipset (chipset : Chipset) (port : Port) :
    CountersApart (.forChipset chipset) port := by
  constructor <;> intro other <;> cases port <;> cases other <;>
    simp [Port.lines, RegisterMap.forChipset, RegisterMap.customBase, RegisterMap.adapterBase]

/-- Mice after `history`: still those of `map` and `ports`, and `port` is tracked. -/
structure MInv (map : RegisterMap) (ports : List Port) (port : Port)
    (history : List (Moment Remark)) (mouse : Mouse) : Prop where
  map_eq : mouse.map = map
  ports_eq : mouse.ports = ports
  tracked : Tracked (port.lines map).counters port history mouse

theorem minv_new (map : RegisterMap) (ports : List Port) (bound : Int32) (port : Port) :
    MInv map ports port [] (Mouse.new map ports bound) where
  map_eq := rfl
  ports_eq := rfl
  tracked := by
    intro path hpath _
    have hnil : path = [] := List.map_eq_nil_iff.mp hpath.symm
    rw [hnil]
    cases port <;> exact follows_new

section Poll

variable {β : Type} [RegisterBus β] {map : RegisterMap} {ports : List Port} {port : Port}
  {history : List (Moment Remark)} {mouse : Mouse}

/-- The motion half of a visit keeps the invariant, whichever port it visits. -/
theorem minv_motion (hapart : CountersApart map port) (h : MInv map ports port history mouse)
    {visited : Port} (hin : visited ∈ ports) (bus : β) :
    MInv map ports port (history ++ (mouse.pollMotion visited).history bus)
      ((mouse.pollMotion visited).run bus).value.2 := by
  rw [Mouse.pollMotion_eq (h.ports_eq.symm ▸ hin), h.map_eq]
  simp only [Program.history, Program.run]
  obtain ⟨answer, bus'⟩ := RegisterBus.read (visited.lines map).counters .word bus
  cases answer with
  | error cause =>
    refine ⟨h.map_eq, h.ports_eq, h.tracked.pass rfl rfl (fun axis => ?_) rfl rfl rfl⟩
    unfold movesAfter
    split <;> rfl
  | ok word =>
    simp only [Program.history_bind, Program.history_remarks, Program.run_bind,
      Program.run_remarks, Program.history, Program.run, List.append_nil]
    refine ⟨(mouse.map_setState ..).trans h.map_eq, (mouse.ports_setState ..).trans h.ports_eq, ?_⟩
    by_cases hv : visited = port
    · subst hv
      obtain ⟨hx, hy⟩ := motionRemarks_moves visited
        ((mouse.stateOf visited).count word mouse.maxDelta).1
        ((mouse.stateOf visited).count word mouse.maxDelta).2.pending
      exact h.tracked.count word mouse.maxDelta hx hy (mouse.stateOf_setState_self ..)
    · -- The other port: neither its counters nor its state are the tracked ones.
      have hother : (visited.lines map).counters ≠ (port.lines map).counters :=
        fun he => hv (hapart.counters visited he)
      have hsame := mouse.stateOf_setState_ne
        ((mouse.stateOf visited).count word mouse.maxDelta).2 fun he => hv he.symm
      refine h.tracked.pass rfl ?_ (fun axis => ?_) (congrArg _ hsame) (congrArg _ hsame)
        (congrArg _ hsame)
      · rw [answersAt_read_ne hother, answersAt_remarks]
      · rw [movesAfter_read_ne hother, movesAfter_remarks]

/-- The button half of a visit keeps the invariant: its reads are not of the counters. -/
theorem minv_buttons (hapart : CountersApart map port) (h : MInv map ports port history mouse)
    (visited : Port) (bus : β) :
    MInv map ports port (history ++ (mouse.pollButtons visited).history bus)
      ((mouse.pollButtons visited).run bus).value.2 := by
  have hfire := hapart.fire visited
  have hpot := hapart.pot visited
  rw [Mouse.pollButtons_eq, h.map_eq]
  simp only [Program.history, Program.run]
  obtain ⟨answer, bus'⟩ := RegisterBus.read (visited.lines map).fire .byte bus
  cases answer with
  | error cause =>
    refine ⟨h.map_eq, h.ports_eq, h.tracked.pass rfl ?_ (fun axis => ?_) rfl rfl rfl⟩
    · rw [answersAt_read_ne hfire]; rfl
    · rw [movesAfter_read_ne hfire]; rfl
  | ok fire =>
    simp only [Program.history, Program.run]
    obtain ⟨answer, bus''⟩ := RegisterBus.read (visited.lines map).pot .word bus'
    cases answer with
    | error cause =>
      refine ⟨h.map_eq, h.ports_eq, h.tracked.pass rfl ?_ (fun axis => ?_) rfl rfl rfl⟩
      · rw [answersAt_read_ne hfire, answersAt_read_ne hpot]; rfl
      · rw [movesAfter_read_ne hfire, movesAfter_read_ne hpot]; rfl
    | ok pot =>
      simp only [Program.history_bind, Program.history_remarks, Program.run_bind,
        Program.run_remarks, Program.history, Program.run, List.append_nil]
      refine ⟨(mouse.map_setState ..).trans h.map_eq, (mouse.ports_setState ..).trans h.ports_eq,
        h.tracked.pass rfl ?_ (fun axis => ?_) ?_ ?_ ?_⟩
      · rw [answersAt_read_ne hfire, answersAt_read_ne hpot, answersAt_remarks]
      · rw [movesAfter_read_ne hfire, movesAfter_read_ne hpot, movesAfter_remarks]
      all_goals
        by_cases hv : port = visited
        · subst hv
          rw [Mouse.stateOf_setState_self]
        · rw [Mouse.stateOf_setState_ne _ _ hv]

theorem minv_ports (hapart : CountersApart map port) :
    ∀ {visits : List Port} {history : List (Moment Remark)} {mouse : Mouse},
      MInv map ports port history mouse → (∀ visited ∈ visits, visited ∈ ports) → ∀ bus : β,
        MInv map ports port (history ++ (mouse.pollPorts visits).history bus)
          ((mouse.pollPorts visits).run bus).value.2
  | [], history, mouse, h, _, bus => by
    rw [Mouse.pollPorts, Program.history_pure, List.append_nil]
    exact h
  | visited :: rest, history, mouse, h, hin, bus => by
    -- The history grows by one half of a visit at a time, and the device changes with it.
    have hmotion := minv_motion hapart h (hin visited (List.mem_cons_self ..)) bus
    have hbuttons := minv_buttons hapart hmotion visited ((mouse.pollMotion visited).run bus).bus
    have hrest := minv_ports hapart hbuttons (fun v hv => hin v (List.mem_cons_of_mem _ hv))
      ((((mouse.pollMotion visited).run bus).value.2.pollButtons visited).run
        ((mouse.pollMotion visited).run bus).bus).bus
    rw [List.append_assoc, List.append_assoc] at hrest
    rw [Mouse.pollPorts, Program.history_bind, Program.run_bind, Program.history_bind,
      Program.run_bind, Program.history_bind, Program.run_bind, Program.history_pure,
      List.append_nil]
    exact hrest

theorem minv_poll (hapart : CountersApart map port) (h : MInv map ports port history mouse)
    (bus : β) :
    MInv map ports port (history ++ mouse.poll.history bus) (mouse.poll.run bus).value.2 := by
  have hports := minv_ports hapart h (fun _ hv => hv) bus
  rw [← h.ports_eq] at hports ⊢
  unfold Mouse.poll
  rw [Program.history_bind, Program.run_bind]
  generalize (mouse.pollPorts mouse.ports).run bus = ran at hports ⊢
  obtain ⟨⟨failure, after⟩, bus', _⟩ := ran
  cases failure <;> simpa using hports

end Poll

/-! ## Runs -/

/-- **A mouse end to end.** Whatever reads fail in a run of polls of new mice, and
whatever the bound: as long as the counters of an enabled port show a mouse that moves
by -128 to 127 along each axis between two successful reads of them, the position of the
port is how far the mouse went from the first of these reads to the last, and so is what
the port attempted to report together with what it has pending. -/
theorem mouse_motion_adds_up {β : Type} [RegisterBus β] (chipset : Chipset) (ports : List Port)
    (bound : Int32) (port : Port) (hport : port ∈ ports) (changes : List (β → β)) (bus : β) :
    let counters := (port.lines (.forChipset chipset)).counters
    let mouse := Mouse.new (.forChipset chipset) ports bound
    let done := polls Mouse.poll changes mouse bus
    let history := historyOf Mouse.poll done
    ∀ (path : List Spot) (first last : Spot),
      answersAt counters history = path.map Spot.counters → path.IsChain Spot.Near →
      path.head? = some first → path.getLast? = some last →
      ∃ state, (afterPolls done mouse).state? port = some state ∧
        (state.x.position.toInt ≡ last.x - first.x [ZMOD 2 ^ 32] ∧
          ((movesAfter counters .x history).map Int32.toInt).sum + state.pending.1.toInt ≡
            last.x - first.x [ZMOD 2 ^ 32]) ∧
        (state.y.position.toInt ≡ last.y - first.y [ZMOD 2 ^ 32] ∧
          ((movesAfter counters .y history).map Int32.toInt).sum + state.pending.2.toInt ≡
            last.y - first.y [ZMOD 2 ^ 32]) := by
  intro counters mouse done history path first last hpath hnear hfirst hlast
  have hstep : ∀ done mouse (bus : β),
      MInv (.forChipset chipset) ports port (historyOf Mouse.poll done) mouse →
      MInv (.forChipset chipset) ports port
        (historyOf Mouse.poll (done ++ [pollOnce Mouse.poll mouse bus]))
        (pollOnce Mouse.poll mouse bus).after := by
    intro done mouse bus h
    unfold historyOf
    rw [List.flatMap_append, List.flatMap_singleton]
    exact minv_poll (countersApart_forChipset chipset port) h bus
  have hnew : MInv (.forChipset chipset) ports port
      (historyOf Mouse.poll ([] : List (Polled β Mouse Unit))) mouse :=
    minv_new _ ports bound port
  have hinv : MInv (.forChipset chipset) ports port history (afterPolls done mouse) :=
    polls_inv hstep changes bus hnew
  have hfollows := hinv.tracked path hpath hnear
  have htravelled : ∀ coordinate : Spot → Int,
      travelled coordinate path = coordinate last - coordinate first := by
    intro coordinate
    rw [travelled, hfirst, hlast]
  refine ⟨_, if_pos (hinv.ports_eq.symm ▸ hport), ⟨?_, ?_⟩, ?_, ?_⟩
  · exact htravelled Spot.x ▸ hfollows.x.position_modEq
  · exact htravelled Spot.x ▸ hfollows.x.sum_add_pending
  · exact htravelled Spot.y ▸ hfollows.y.position_modEq
  · exact htravelled Spot.y ▸ hfollows.y.sum_add_pending

/-- Three reads of the counters succeed in four polls; between the first two the mouse
crosses both ends of its counters, one read of them fails, and so do some of the buttons. -/
theorem mouse_motion_adds_up_across_faults :
    let mouse := Mouse.new (.forChipset .ocs) [.port1, .port0] 5
    let bus := ({} : MemoryBus).script 0xDFF00A
      ([⟨250, 5⟩, ⟨377, -123⟩, ⟨370, -1⟩].map Spot.counters)
    let done := polls Mouse.poll
      [id, (·.failReads 0xDFF00A (.next 1)), (·.failReads 0xBFE001 .always), id] mouse bus
    let history := historyOf Mouse.poll done
    answersAt 0xDFF00A history = [⟨250, 5⟩, ⟨377, -123⟩, ⟨370, -1⟩].map Spot.counters ∧
      ∃ state, (afterPolls done mouse).state? .port0 = some state ∧
        (state.x.position.toInt ≡ 370 - 250 [ZMOD 2 ^ 32] ∧
          ((movesAfter 0xDFF00A .x history).map Int32.toInt).sum + state.pending.1.toInt ≡
            370 - 250 [ZMOD 2 ^ 32]) ∧
        (state.y.position.toInt ≡ -1 - 5 [ZMOD 2 ^ 32] ∧
          ((movesAfter 0xDFF00A .y history).map Int32.toInt).sum + state.pending.2.toInt ≡
            -1 - 5 [ZMOD 2 ^ 32]) := by
  intro mouse bus done history
  have hanswers : answersAt 0xDFF00A history =
      [⟨250, 5⟩, ⟨377, -123⟩, ⟨370, -1⟩].map Spot.counters := by decide +kernel
  exact ⟨hanswers, mouse_motion_adds_up .ocs [.port1, .port0] 5 .port0 (by decide) _ bus
    [⟨250, 5⟩, ⟨377, -123⟩, ⟨370, -1⟩] ⟨250, 5⟩ ⟨370, -1⟩ hanswers (by decide) rfl rfl⟩

end InputBridge
