import InputBridge.Proofs.Poller.Refinement

/-!
# Starts that fail and workers that break down

A poller gives its session away when it is started, and has it back when it is stopped,
unless the worker broke down. `Standing` says where that leaves it: it is stopped and holds
the session, it runs and its worker holds it, or the session is lost. Every step keeps to
these three (`standing_step`), and so does every run (`standing_steps`), starts that fail and
workers that break down included. That is why the flag and the worker never disagree.

A start that fails is no more than a start of the session that fails (`start_stopped_eq`),
and one that fails on the channel changes nothing but the bus. A worker that broke down is
noticed by the next stop and by nobody before (`broken_steps`); after that stop the session
is lost for good (`lost_steps`).
-/

namespace InputBridge

/-! ## Steps -/

/-- A worker that breaks down in its turn, wherever in it, and leaves the bus and the sink
as they are then. -/
def Worker.breakDown {β σ : Type} (bus : β) (sink : σ) : Worker β σ → Worker β σ
  | .turning _ => .broken bus sink
  | worker => worker

/-- Is this how a session answers that cannot be started? -/
def BridgeError.OfStart (problem : BridgeError) : Prop :=
  (∃ reason, problem = .config reason) ∨ (∃ cause, problem = .bus cause) ∨ problem = .noDevices

namespace Poller

/-- What may happen to a poller: a call of its client that it survives, a step of its worker,
or a change of its bus from outside. -/
inductive Step (β σ : Type) where
  | start
  /-- A stop, in which the worker makes `last` if it has a turn to make. -/
  | stop (last : Turn)
  | look
  | turn (turn : Turn)
  /-- The worker breaks down in its turn. -/
  | breakDown (bus : β) (sink : σ)
  | change (f : β → β)

/-- Is this step a stop? -/
def Step.isStop {β σ : Type} : Step β σ → Bool
  | .stop _ => true
  | _ => false

/-- The answer to a call. -/
inductive Answer where
  | started (answer : Except BridgeError Unit)
  | stopped (answer : Except BridgeError (Option Stats))
  deriving DecidableEq

/-- Is this how a stop answers that finds its worker broken down? -/
def Answer.isPanic : Answer → Bool
  | .stopped (.error .workerPanicked) => true
  | _ => false

/-! ## Where the session is -/

section Standing

variable {β σ : Type}

/-- The session is with the poller, with its worker, or lost; the flag is set in the second
case only. -/
inductive Standing : Poller β σ → Prop where
  | stopped (interval idleSleep : UInt64) (held : Session β σ) :
      Standing ⟨interval, idleSleep, false, none, some held⟩
  | running (interval idleSleep : UInt64) (worker : Worker β σ) :
      Standing ⟨interval, idleSleep, true, some worker, none⟩
  | lost (interval idleSleep : UInt64) : Standing ⟨interval, idleSleep, false, none, none⟩

theorem Standing.flag_eq {poller : Poller β σ} (h : Standing poller) :
    poller.flag = poller.isRunning := by
  cases h <;> rfl

/-- Is the worker broken down, and not stopped yet? -/
def Broken (poller : Poller β σ) : Prop := ∃ bus sink, poller.worker = some (.broken bus sink)

/-- A poller that lost its session. -/
def Lost (poller : Poller β σ) : Prop :=
  poller.flag = false ∧ poller.worker = none ∧ poller.session = none

end Standing

variable {β σ : Type} [RegisterBus β] [EventSink σ]

/-- Takes one step. Calls have an answer. -/
def step (poller : Poller β σ) : Step β σ → Option Answer × Poller β σ
  | .start => (some (.started poller.start.value.1), poller.start.value.2)
  | .stop last => (some (.stopped (poller.stop last).value.1), (poller.stop last).value.2)
  | .look => (none, poller.look)
  | .turn turn => (none, (poller.turn turn).value.1)
  | .breakDown bus sink =>
    (none, { poller with worker := poller.worker.map (Worker.breakDown bus sink) })
  | .change f => (none, poller.changeBus f)

/-- Takes steps one after the other, and gives the answers to the calls. -/
def steps (poller : Poller β σ) : List (Step β σ) → List Answer × Poller β σ
  | [] => ([], poller)
  | next :: rest =>
    let (answer, poller) := poller.step next
    let (answers, poller) := poller.steps rest
    (answer.toList ++ answers, poller)

theorem steps_cons (poller : Poller β σ) (next : Step β σ) (rest : List (Step β σ)) :
    poller.steps (next :: rest) =
      ((poller.step next).1.toList ++ ((poller.step next).2.steps rest).1,
        ((poller.step next).2.steps rest).2) := rfl

omit [EventSink σ] in
/-- A start of a poller that holds its session is a start of the session, which goes to a
worker if it is ready and stays if it is not. -/
theorem start_stopped_eq (interval idleSleep : UInt64) (held : Session β σ) :
    (⟨interval, idleSleep, false, none, some held⟩ : Poller β σ).start.value =
      match held.start.value with
      | (.ok (), after) => (.ok (), ⟨interval, idleSleep, true, some (.looking after), none⟩)
      | (.error problem, after) =>
        (.error problem, ⟨interval, idleSleep, false, none, some after⟩) := by
  unfold start
  dsimp only
  generalize held.start.value = result
  obtain ⟨answer, after⟩ := result
  cases answer <;> rfl

/-- A stop of a poller that runs takes the session back, unless the worker is or gets broken. -/
theorem stop_running_eq (interval idleSleep : UInt64) (worker : Worker β σ) (last : Turn) :
    ((⟨interval, idleSleep, true, some worker, none⟩ : Poller β σ).stop last).value =
      match (worker.turn last).value.1.remains with
      | some session =>
        (.ok (some session.stats), ⟨interval, idleSleep, false, none, some session⟩)
      | none => (.error .workerPanicked, ⟨interval, idleSleep, false, none, none⟩) := by
  unfold stop
  dsimp only
  cases (worker.turn last).value.1.remains <;> rfl

theorem standing_step {poller : Poller β σ} (h : Standing poller) (next : Step β σ) :
    Standing (poller.step next).2 := by
  cases next with
  | start =>
    cases h with
    | stopped interval idleSleep held =>
      show Standing (Poller.start _).value.2
      rw [start_stopped_eq]
      split
      next => exact .running ..
      next => exact .stopped ..
    | running => exact .running ..
    | lost => exact .lost ..
  | stop last =>
    cases h with
    | stopped => exact .stopped ..
    | running interval idleSleep worker =>
      show Standing (Poller.stop last _).value.2
      rw [stop_running_eq]
      split
      next => exact .stopped ..
      next => exact .lost ..
    | lost => exact .lost ..
  | look => cases h <;> constructor
  | turn turn => cases h <;> constructor
  | breakDown bus sink => cases h <;> constructor
  | change f => cases h <;> constructor

theorem standing_steps : ∀ (run : List (Step β σ)) {poller : Poller β σ}, Standing poller →
    Standing (poller.steps run).2
  | [], _, h => h
  | next :: rest, _, h => standing_steps rest (standing_step h next)

/-! ## Starts that fail -/

section Start

omit [EventSink σ]

/-- A poller that holds its session starts as the session does, and then its worker has it. -/
theorem start_held {poller : Poller β σ} (h : Standing poller) {held : Session β σ}
    (hheld : poller.session = some held) :
    poller.start.value.1 = held.start.value.1 ∧
      (held.start.value.1 = .ok () →
        poller.start.value.2.worker = some (.looking held.start.value.2)) := by
  cases h with
  | stopped interval idleSleep other =>
    obtain rfl : other = held := Option.some.inj hheld
    rw [start_stopped_eq]
    generalize other.start.value = result
    obtain ⟨answer, after⟩ := result
    cases answer with
    | ok _ => exact ⟨rfl, fun _ => rfl⟩
    | error problem => exact ⟨rfl, fun hok => nomatch hok⟩
  | running => exact nomatch hheld
  | lost => exact nomatch hheld

/-- A start that fails leaves the session with the poller, as its own start left it. -/
theorem start_failed {poller : Poller β σ} (h : Standing poller) {problem : BridgeError}
    (hproblem : problem.OfStart) (hfailed : poller.start.value.1 = .error problem) :
    ∃ held, poller.session = some held ∧ held.start.value.1 = .error problem ∧
      poller.start.value.2 = { poller with session := some held.start.value.2 } ∧
      poller.isRunning = false := by
  cases h with
  | stopped interval idleSleep held =>
    refine ⟨held, rfl, ?_⟩
    rw [start_stopped_eq] at hfailed ⊢
    generalize held.start.value = result at hfailed ⊢
    obtain ⟨answer, after⟩ := result
    cases answer with
    | ok _ => exact nomatch hfailed
    | error other => exact ⟨hfailed, rfl, rfl⟩
  | running =>
    obtain rfl : BridgeError.alreadyRunning = problem := Except.error.inj hfailed
    rcases hproblem with ⟨reason, h⟩ | ⟨cause, h⟩ | h <;> exact nomatch h
  | lost =>
    obtain rfl : BridgeError.sessionLost = problem := Except.error.inj hfailed
    rcases hproblem with ⟨reason, h⟩ | ⟨cause, h⟩ | h <;> exact nomatch h

/-- A session that the channel keeps from starting changes in nothing but its bus. -/
theorem start_down {session : Session β σ} {cause : BusError}
    (hfailed : session.start.value.1 = .error (.bus cause)) :
    session.start.value.2 = { session with bus := (RegisterBus.connect session.bus).2 } := by
  have hstarted := session.started
  generalize session.start.value = result at hstarted hfailed ⊢
  cases hstarted with
  | again => exact nomatch hfailed
  | refused => exact nomatch hfailed
  | down other bus _ _ hdown => rw [hdown]
  | none => exact nomatch hfailed
  | up => exact nomatch hfailed

/-- If a change of the bus hides what a failed attempt left there, it hides the attempt. -/
theorem change_start_down {poller : Poller β σ} (h : Standing poller) {held : Session β σ}
    {cause : BusError} (hheld : poller.session = some held)
    (hfailed : poller.start.value.1 = .error (.bus cause)) {f : β → β}
    (hhides : f (RegisterBus.connect held.bus).2 = f held.bus) :
    poller.start.value.2.changeBus f = poller.changeBus f := by
  obtain ⟨other, hother, hdown, hleft, _⟩ := start_failed h (Or.inr (Or.inl ⟨cause, rfl⟩)) hfailed
  obtain rfl : held = other := Option.some.inj (hheld.symm.trans hother)
  rw [hleft, start_down hdown]
  unfold changeBus
  rw [hheld]
  dsimp only [Option.map_some]
  rw [hhides]

end Start

/-! ## Workers that break down -/

/-- A stop finds the worker broken down if it was, or if it breaks in the turn that it still
has to make. -/
theorem stop_panicked_iff (poller : Poller β σ) (last : Turn) :
    (poller.stop last).value.1 = .error .workerPanicked ↔ (poller.turn last).value.1.Broken := by
  unfold stop turn Broken
  cases hworker : poller.worker with
  | none => simp [hworker]
  | some worker =>
    dsimp only
    generalize (worker.turn last).value.1 = ended
    cases ended with
    | looking session => simp [Worker.remains]
    | turning session => simp [Worker.remains]
    | broken bus sink => simp [Worker.remains]

/-- Who wants the session back has to stop the poller. -/
theorem handBack_of_stop {poller : Poller β σ} {last : Turn} {problem : BridgeError}
    (h : (poller.stop last).value.1 = .error problem) :
    (poller.handBack last).value = .error problem := by
  unfold handBack
  generalize poller.stop last = ended at h ⊢
  obtain ⟨⟨answer, after⟩, notes⟩ := ended
  obtain rfl : answer = .error problem := h
  rfl

/-- Nothing but a stop moves a worker that broke down. -/
theorem broken_step {poller : Poller β σ} (h : poller.Broken) {next : Step β σ}
    (hnext : next.isStop = false) : (poller.step next).2.Broken := by
  obtain ⟨bus, sink, hworker⟩ := h
  cases next with
  | start =>
    refine ⟨bus, sink, ?_⟩
    show poller.start.value.2.worker = _
    unfold start
    rw [hworker]
    exact hworker
  | stop last => exact nomatch hnext
  | look => exact ⟨bus, sink, congrArg (Option.map _) hworker⟩
  | turn turn =>
    refine ⟨bus, sink, ?_⟩
    show (poller.turn turn).value.1.worker = _
    unfold Poller.turn
    rw [hworker]
    rfl
  | breakDown bus' sink' => exact ⟨bus, sink, congrArg (Option.map _) hworker⟩
  | change f => exact ⟨f bus, sink, congrArg (Option.map _) hworker⟩

theorem broken_steps : ∀ (run : List (Step β σ)) {poller : Poller β σ}, poller.Broken →
    (∀ next ∈ run, next.isStop = false) → (poller.steps run).2.Broken
  | [], _, h, _ => h
  | next :: rest, _, h, hrun =>
    broken_steps rest (broken_step h (hrun next (List.mem_cons_self ..)))
      fun later hin => hrun later (List.mem_cons_of_mem _ hin)

/-- The stop that finds the worker broken down loses the session. -/
theorem lost_of_stop {poller : Poller β σ} (h : Standing poller) {last : Turn}
    (hpanic : (poller.stop last).value.1 = .error .workerPanicked) :
    (poller.stop last).value.2.Lost := by
  cases h with
  | stopped => exact nomatch hpanic
  | running interval idleSleep worker =>
    rw [stop_running_eq] at hpanic ⊢
    split at hpanic
    next => exact nomatch hpanic
    next => exact ⟨rfl, rfl, rfl⟩
  | lost => exact nomatch hpanic

/-- What a poller that lost its session answers. -/
theorem lost_calls {poller : Poller β σ} (h : poller.Lost) :
    poller.start.value = (.error .sessionLost, poller) ∧
      ∀ last, (poller.stop last).value = (.ok none, poller) ∧
        (poller.handBack last).value = .error .sessionLost := by
  obtain ⟨interval, idleSleep, flag, worker, session⟩ := poller
  obtain ⟨rfl, rfl, rfl⟩ := h
  exact ⟨rfl, fun last => ⟨rfl, rfl⟩⟩

/-- Nothing moves a poller that lost its session, and it does not panic again. -/
theorem lost_step {poller : Poller β σ} (h : poller.Lost) (next : Step β σ) :
    (poller.step next).2 = poller ∧ ∀ answer ∈ (poller.step next).1, answer.isPanic = false := by
  obtain ⟨interval, idleSleep, flag, worker, session⟩ := poller
  obtain ⟨rfl, rfl, rfl⟩ := h
  cases next with
  | start => exact ⟨rfl, fun _ hin => Option.some.inj hin ▸ rfl⟩
  | stop last => exact ⟨rfl, fun _ hin => Option.some.inj hin ▸ rfl⟩
  | look => exact ⟨rfl, fun _ hin => nomatch hin⟩
  | turn turn => exact ⟨rfl, fun _ hin => nomatch hin⟩
  | breakDown bus sink => exact ⟨rfl, fun _ hin => nomatch hin⟩
  | change f => exact ⟨rfl, fun _ hin => nomatch hin⟩

theorem lost_steps : ∀ (run : List (Step β σ)) {poller : Poller β σ}, poller.Lost →
    (poller.steps run).2 = poller ∧ (poller.steps run).1.countP Answer.isPanic = 0
  | [], _, _ => ⟨rfl, rfl⟩
  | next :: rest, poller, h => by
    obtain ⟨hsame, hanswer⟩ := lost_step h next
    have hnone : (poller.step next).1.toList.countP Answer.isPanic = 0 := by
      rw [List.countP_eq_zero]
      intro answer hin
      rw [hanswer answer (Option.mem_toList.mp hin)]
      exact Bool.false_ne_true
    rw [steps_cons, hsame, List.countP_append, hnone, Nat.zero_add]
    exact lost_steps rest h

/-- However long a poller is used, its worker is found broken down once at most. -/
theorem panics_le_one : ∀ (run : List (Step β σ)) {poller : Poller β σ}, Standing poller →
    (poller.steps run).1.countP Answer.isPanic ≤ 1
  | [], _, _ => Nat.zero_le 1
  | next :: rest, poller, h => by
    have hrest := panics_le_one rest (standing_step h next)
    rw [steps_cons, List.countP_append]
    cases next with
    | start => simpa [step, Answer.isPanic] using hrest
    | stop last =>
      by_cases hpanic : (poller.stop last).value.1 = .error .workerPanicked
      · -- This was the one: from here on the session is lost.
        have hlost := (lost_steps rest (lost_of_stop h hpanic)).2
        show _ + ((poller.stop last).value.2.steps rest).1.countP Answer.isPanic ≤ 1
        rw [hlost]
        exact List.countP_le_length
      · have hnone : (Answer.stopped (poller.stop last).value.1).isPanic = false := by
          unfold Answer.isPanic
          split
          next heq => exact absurd (Answer.stopped.inj heq) hpanic
          next => rfl
        simpa [step, hnone] using hrest
    | look => simpa [step] using hrest
    | turn turn => simpa [step] using hrest
    | breakDown bus sink => simpa [step] using hrest
    | change f => simpa [step] using hrest

/-! ## The contract -/

/-- **The error paths of a poller.** A poller was started and stopped, its worker ran, and
may have broken down, and others changed its bus, in any order. Then:

* the flag is set if and only if there is a worker;
* a poller that holds its session starts as the session does, and then its worker has it;
* a start that fails for the configuration, the channel or the devices keeps the session, and
  leaves everything else as it is;
* if it failed for the channel, then after a change that hides what the attempt left of the
  bus, all goes on as if it had not been made;
* a stop panics if and only if the worker is broken down, or breaks in its last turn;
* until then a worker that broke down passes for running;
* after a stop that panicked the session is lost: the poller does not change any more, every
  start and every attempt to get the session back say so, and every other stop finds nothing;
* so no two stops panic. -/
theorem error_paths (session : Session β σ) (config : Config) (run : List (Step β σ)) :
    let answers := ((ofSession session config).steps run).1
    let poller := ((ofSession session config).steps run).2
    poller.flag = poller.isRunning ∧
      (∀ held, poller.session = some held →
        poller.start.value.1 = held.start.value.1 ∧
          (held.start.value.1 = .ok () →
            poller.start.value.2.worker = some (.looking held.start.value.2))) ∧
      (∀ problem, problem.OfStart → poller.start.value.1 = .error problem →
        ∃ held, poller.session = some held ∧ held.start.value.1 = .error problem ∧
          poller.start.value.2 = { poller with session := some held.start.value.2 } ∧
          poller.isRunning = false ∧ poller.start.value.2.isRunning = false ∧
          ∀ last, (poller.start.value.2.handBack last).value = .ok held.start.value.2) ∧
      (∀ held cause, poller.session = some held →
        poller.start.value.1 = .error (.bus cause) →
        ∀ f, f (RegisterBus.connect held.bus).2 = f held.bus → ∀ later,
          poller.start.value.2.steps (.change f :: later) = poller.steps (.change f :: later)) ∧
      (∀ last, (poller.stop last).value.1 = .error .workerPanicked ↔
        (poller.turn last).value.1.Broken) ∧
      (poller.Broken → ∀ later, (∀ next ∈ later, next.isStop = false) →
        let after := (poller.steps later).2
        after.start.value = (.error .alreadyRunning, after) ∧
          ∀ last, (after.stop last).value.1 = .error .workerPanicked ∧
            (after.handBack last).value = .error .workerPanicked) ∧
      (∀ last, (poller.stop last).value.1 = .error .workerPanicked → ∀ later,
        let after := ((poller.stop last).value.2.steps later).2
        after = (poller.stop last).value.2 ∧ after.isRunning = false ∧
          after.start.value = (.error .sessionLost, after) ∧
          ∀ last, (after.stop last).value = (.ok none, after) ∧
            (after.handBack last).value = .error .sessionLost) ∧
      answers.countP Answer.isPanic ≤ 1 := by
  intro answers poller
  have hnew : Standing (ofSession session config) := .stopped ..
  have hstanding : Standing poller := standing_steps run hnew
  refine ⟨hstanding.flag_eq, fun _ hheld => start_held hstanding hheld, ?failed, ?down,
    poller.stop_panicked_iff, ?broken, ?lost, panics_le_one run hnew⟩
  case failed =>
    intro problem hproblem hfailed
    obtain ⟨held, hheld, hstart, hleft, hstopped⟩ := start_failed hstanding hproblem hfailed
    refine ⟨held, hheld, hstart, hleft, hstopped, ?_, fun last => ?_⟩
    · rw [hleft]
      exact hstopped
    · have hworker : poller.worker = none := by simpa [isRunning] using hstopped
      rw [hleft]
      unfold handBack stop
      dsimp only
      rw [hworker]
  case down =>
    intro held cause hheld hfailed f hhides later
    have hsame : (poller.start.value.2.step (.change f)) = poller.step (.change f) :=
      congrArg (Prod.mk none) (change_start_down hstanding hheld hfailed hhides)
    rw [steps_cons, steps_cons, hsame]
  case broken =>
    intro hbroken later hlater after
    have hafter : after.Broken := broken_steps later hbroken hlater
    have hpanic : ∀ last, (after.stop last).value.1 = .error .workerPanicked := by
      intro last
      have hturn : (after.step (.turn last)).2.Broken := broken_step hafter rfl
      exact (after.stop_panicked_iff last).mpr hturn
    refine ⟨?_, fun last => ⟨hpanic last, handBack_of_stop (hpanic last)⟩⟩
    obtain ⟨bus, sink, hworker⟩ := hafter
    unfold start
    rw [hworker]
  case lost =>
    intro last hpanic later after
    have hlost := lost_of_stop hstanding hpanic
    have hsame : after = (poller.stop last).value.2 := (lost_steps later hlost).1
    rw [hsame]
    exact ⟨rfl, congrArg Option.isSome hlost.2.1, lost_calls hlost⟩

/-- A poller whose channel is down at first, and whose worker breaks down in its first tick:
the failed start leaves no trace, and the session is lost to the stop. -/
theorem error_paths_after_booting :
    let poller := Poller.new (({} : MemoryBus).failConnect "booting") ({} : RecordingSink) {}
    let run := [.change MemoryBus.clearFaults, .start, .look, .turn (.tick (some 5))]
    let broken := (poller.steps run).2
    poller.start.value.1 = .error (.bus (.channelDown "booting")) ∧
      poller.start.value.2.steps run = poller.steps run ∧
      (broken.handBack .sleep).value = .error .workerPanicked ∧
      (broken.steps [.start, .stop .sleep, .stop .sleep, .start]).1 =
        [.started (.error .alreadyRunning), .stopped (.error .workerPanicked),
          .stopped (.ok none), .started (.error .sessionLost)] := by
  intro poller run broken
  have hdown : poller.start.value.1 = .error (.bus (.channelDown "booting")) := by decide
  have hretried := (error_paths (.new (({} : MemoryBus).failConnect "booting")
    ({} : RecordingSink) {}) {} []).2.2.2.1 _ _ rfl hdown MemoryBus.clearFaults rfl
  have hbroken : broken.Broken := ⟨_, _, rfl⟩
  have hcalls := (error_paths (.new (({} : MemoryBus).failConnect "booting")
    ({} : RecordingSink) {}) {} run).2.2.2.2.2.1 hbroken [] (fun _ hin => nomatch hin)
  exact ⟨hdown, hretried _, (hcalls.2 .sleep).2, by decide⟩

end Poller

end InputBridge
