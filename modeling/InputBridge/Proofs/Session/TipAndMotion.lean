import InputBridge.IdleMachine
import InputBridge.Proofs.Device.TandemPolls
import InputBridge.Proofs.Session.BringUp
import InputBridge.Proofs.Session.Sinks

/-!
# The tip of the pen and the mouse on port 0

The tip of the pen is one bit of the word with the counters of game port 0, and the machine
lets the horizontal counter of a mouse have that bit as well. So a mouse that is moved can
press the tip of a pen that is seen (`Session.motion_presses_tip`). It cannot in any other
way: two sessions are compared that differ in how the mouse on that port is moved
(`Session.InTandem`), and as long as the bit of the tip is the same in both, their pens report
the same edges of it (`Session.tip_ignores_motion`).
-/

namespace InputBridge

open Program (Tandem)

variable {bits : Address → UInt16}

/-! ## Devices side by side -/

/-- The edge of the tip or of the pen tool, if the signal is an attempt of one. -/
def Signal.tip? (signal : Signal) : Option (Button × Bool) := signal.event?.bind Event.tip?

section Groups

variable {α α' : Type} {post : α → α' → Prop} {program : Program Remark α}
  {program' : Program Remark α'}

theorem Program.Tandem.groupedFrom (h : Tandem bits Remark.tip? post program program')
    (device : Device) (pending pending' : Bool) :
    Tandem bits Signal.tip? post (program.groupedFrom device pending)
      (program'.groupedFrom device pending') := by
  -- Only one of the two may have a sync to close with, and in a sync nothing is heard.
  induction h generalizing pending pending' with
  | done h =>
    cases pending with
    | false => cases pending' with
      | false => exact .done h
      | true => exact .second rfl (.done h)
    | true => cases pending' with
      | false => exact .first rfl (.done h)
      | true => exact .both (.done h)
  | read _ ih => exact .read fun answer answer' hagree => ih answer answer' hagree pending pending'
  | write _ ih => exact .write fun answer => ih answer pending pending'
  | @both out _ _ _ ih =>
    cases out with
    | event event => exact .both (ih true true)
    | note note => exact .both (ih pending pending')
  | @first out _ _ hout _ ih =>
    cases out with
    | event event => exact .first hout (ih true pending')
    | note note => exact .first rfl (ih pending pending')
  | @second out _ _ hout _ ih =>
    cases out with
    | event event => exact .second hout (ih pending true)
    | note note => exact .second rfl (ih pending pending')

end Groups

namespace Devices

variable {δ ρ τ : Type} {device : Device} {kept : δ → δ → Prop} {state? state?' : Option δ}

theorem rel_self (h : ∀ state ∈ state?, kept state state) : Option.Rel kept state? state? := by
  cases state? with
  | none => exact .none
  | some state => exact .some (h state rfl)

theorem isSome_eq_of_rel (h : Option.Rel kept state? state?') : state?.isSome = state?'.isSome := by
  cases h <;> rfl

theorem scanDevice_tandem {poll : δ → Program Remark (Except BusError ρ × δ)}
    (hstates : Option.Rel kept state? state?')
    (h : ∀ state state', kept state state' →
      Tandem bits Remark.tip? (fun result result' => kept result.2 result'.2)
        (poll state) (poll state')) :
    Tandem bits Signal.tip? (fun result result' => Option.Rel kept result.1 result'.1)
      (scanDevice device poll state?) (scanDevice device poll state?') := by
  cases hstates with
  | none => exact .done .none
  | some hkept =>
    refine ((h _ _ hkept).groupedFrom device false false).bind
      fun (answer, after) (answer', after') hafter => ?_
    -- One poll may fail where the other does not; that is noted, and nothing is heard in it.
    cases answer with
    | ok _ => cases answer' with
      | ok _ => exact .done (.some hafter)
      | error cause' => exact .second rfl (.done (.some hafter))
    | error cause => cases answer' with
      | ok _ => exact .first rfl (.done (.some hafter))
      | error cause' => exact .first rfl (.second rfl (.done (.some hafter)))

theorem keepIfSetUp_tandem {heard : Note → Option τ} {setUp : δ → Attempt Note Unit}
    (hstates : Option.Rel kept state? state?')
    (h : ∀ state state', kept state state' →
      Tandem bits heard (fun answer answer' => answer = answer') (setUp state).run
        (setUp state').run) :
    Tandem bits heard (Option.Rel kept) (keepIfSetUp device setUp state?)
      (keepIfSetUp device setUp state?') := by
  cases hstates with
  | none => exact .done .none
  | some hkept =>
    refine (h _ _ hkept).bind fun answer answer' hanswer => ?_
    subst hanswer
    cases answer with
    | ok _ => exact .done (.some hkept)
    | error cause => exact .both (.done .none)

/-- The devices of two sessions with the same configuration, side by side: the same keyboard
and the same pen, and mice on the same ports. -/
structure InTandem (config : Config) (devices devices' : Devices) : Prop where
  keyboard : Option.Rel (fun keyboard keyboard' => keyboard = keyboard' ∧
    ∃ held, keyboard = { Keyboard.new (.forChipset config.chipset) .standard with held })
    devices.keyboard devices'.keyboard
  mouse : Option.Rel (fun mouse mouse' =>
    (Mouse.new (.forChipset config.chipset) config.mousePorts config.maxMouseDelta).Kin mouse ∧
      (Mouse.new (.forChipset config.chipset) config.mousePorts config.maxMouseDelta).Kin mouse')
    devices.mouse devices'.mouse
  lightpen : Option.Rel (fun pen pen' => pen = pen' ∧
    ∃ state, pen = { Lightpen.new (.forChipset config.chipset) with state })
    devices.lightpen devices'.lightpen

variable {config : Config} {devices devices' : Devices}

theorem inTandem_ofConfig (config : Config) :
    InTandem config (ofConfig config) (ofConfig config) where
  keyboard := rel_self fun _ hin => ⟨rfl, .released, keyboard_of_mem hin⟩
  mouse := rel_self fun _ hin => by
    rw [mouse_of_mem hin]
    exact ⟨⟨rfl, rfl⟩, ⟨rfl, rfl⟩⟩
  lightpen := rel_self fun _ hin => ⟨rfl, {}, lightpen_of_mem hin⟩

theorem InTandem.inUse (h : InTandem config devices devices') : devices.inUse = devices'.inUse := by
  unfold Devices.inUse
  rw [isSome_eq_of_rel h.keyboard, isSome_eq_of_rel h.mouse, isSome_eq_of_rel h.lightpen]

/-- What two scans side by side say of the tip is the same. -/
theorem InTandem.scan (h : InTandem config devices devices') :
    Tandem (RegisterMap.forChipset config.chipset).stillBits Signal.tip?
      (fun result result' => InTandem config result.1 result'.1) devices.scan devices'.scan := by
  refine (scanDevice_tandem h.keyboard fun keyboard keyboard' hsame => ?_).bind
    fun (keyboard, _) (keyboard', _) hkeyboard => ?_
  · obtain ⟨rfl, hmade⟩ := hsame
    exact (Keyboard.poll_tandem hmade).imp fun _ _ h => ⟨congrArg Prod.snd h.1, h.2⟩
  refine (scanDevice_tandem h.mouse fun mouse mouse' hkin =>
    Mouse.poll_tandem hkin.1 hkin.2).bind fun (mouse, _) (mouse', _) hmouse => ?_
  refine (scanDevice_tandem h.lightpen fun pen pen' hsame => ?_).bind
    fun (pen, _) (pen', _) hpen => ?_
  · obtain ⟨rfl, hmade⟩ := hsame
    exact (Lightpen.poll_tandem hmade).imp fun _ _ h => ⟨congrArg Prod.snd h.1, h.2⟩
  exact .done ⟨hkeyboard, hmouse, hpen⟩

/-- Setting up drops the same devices, whatever is listened for. -/
theorem InTandem.setUp {heard : Note → Option τ} (h : InTandem config devices devices') :
    Tandem (RegisterMap.forChipset config.chipset).stillBits heard (InTandem config)
      devices.setUp devices'.setUp := by
  have hbits : (RegisterMap.forChipset config.chipset).stillBits
        (RegisterMap.forChipset config.chipset).ciaaDdra = 0xFFFF ∧
      (RegisterMap.forChipset config.chipset).stillBits
        (RegisterMap.forChipset config.chipset).bplcon0 = 0xFFFF := by
    cases config.chipset <;> exact ⟨rfl, rfl⟩
  unfold Devices.setUp
  refine (keepIfSetUp_tandem h.keyboard fun keyboard keyboard' hsame => ?_).bind
    fun keyboard keyboard' hkeyboard => ?_
  · obtain ⟨rfl, -⟩ := hsame
    exact keyboard.setUp_tandem
  refine (keepIfSetUp_tandem h.mouse fun mouse mouse' hkin =>
    Mouse.setUp_tandem hkin.1 hkin.2 hbits.1).bind fun mouse mouse' hmouse => ?_
  have hafter : InTandem config { devices with keyboard, mouse }
      { devices' with keyboard := keyboard', mouse := mouse' } := ⟨hkeyboard, hmouse, h.lightpen⟩
  have hpens := h.lightpen
  generalize devices.lightpen = pen? at hpens hafter ⊢
  generalize devices'.lightpen = pen?' at hpens hafter ⊢
  cases hpens with
  | none => exact .done hafter
  | some hsame =>
    obtain ⟨rfl, state, rfl⟩ := hsame
    exact (Lightpen.setUp_tandem hbits.2).bind fun _ _ _ => .done hafter

end Devices

/-! ## Sessions side by side -/

namespace Session

variable {β σ σ' : Type} [RegisterBus β] {config : Config} {related : β → β → Prop}

/-- Two sessions with the same configuration, on related buses. -/
structure InTandem (config : Config) (related : β → β → Prop) (session : Session β σ)
    (session' : Session β σ') : Prop where
  config_eq : session.config = config
  config_eq' : session'.config = config
  ready : session.ready = session'.ready
  bus : related session.bus session'.bus
  devices : Devices.InTandem config session.devices session'.devices

/-- Steps of the same kind, of which changes keep the buses related. -/
inductive Step.Paired (related : β → β → Prop) : Step β → Step β → Prop
  | start : Paired related .start .start
  | tick : Paired related .tick .tick
  | change {f f' : β → β} (h : ∀ bus bus', related bus bus' → related (f bus) (f' bus')) :
      Paired related (.change f) (.change f')

variable {session : Session β σ} {session' : Session β σ'}

theorem InTandem.start
    (hlockstep : Lockstep (RegisterMap.forChipset config.chipset).stillBits related)
    (h : InTandem config related session session') :
    session.start.value.1 = session'.start.value.1 ∧
      InTandem config related session.start.value.2 session'.start.value.2 := by
  obtain ⟨hanswer, hbus⟩ := hlockstep.connect h.bus
  unfold Session.start
  rw [h.config_eq, h.config_eq', h.ready]
  split
  next => exact ⟨rfl, h⟩
  next =>
    split
    next => exact ⟨rfl, h⟩
    next =>
      generalize RegisterBus.connect session.bus = up at hanswer hbus ⊢
      generalize RegisterBus.connect session'.bus = up' at hanswer hbus ⊢
      obtain ⟨answer, bus⟩ := up
      obtain ⟨answer', bus'⟩ := up'
      obtain rfl : answer = answer' := hanswer
      cases answer with
      | error cause => exact ⟨rfl, rfl, rfl, rfl, hbus, h.devices⟩
      | ok _ =>
        have hsetUp : Tandem (RegisterMap.forChipset config.chipset).stillBits
            (fun _ => (none : Option Unit)) (Devices.InTandem config) session.devices.setUp
            session'.devices.setUp := h.devices.setUp
        obtain ⟨hdevices, hleft, -⟩ := hsetUp.run hlockstep hbus
        have hactive := Devices.active_congr hdevices.inUse
        dsimp only
        by_cases hnone : (session'.devices.setUp.run bus').value.active = []
        · rw [if_pos (hactive.trans hnone), if_pos hnone]
          exact ⟨rfl, rfl, rfl, rfl, hleft, hdevices⟩
        · rw [if_neg fun hempty => hnone (hactive.symm.trans hempty), if_neg hnone]
          exact ⟨rfl, rfl, rfl, rfl, hleft, hdevices⟩

variable [EventSink σ] [EventSink σ']

theorem InTandem.tick
    (hlockstep : Lockstep (RegisterMap.forChipset config.chipset).stillBits related)
    (h : InTandem config related session session') :
    session.attempts.filterMap Event.tip? = session'.attempts.filterMap Event.tip? ∧
      InTandem config related session.tick.value session'.tick.value := by
  obtain ⟨hdevices, hbus, hsignals⟩ := h.devices.scan.run hlockstep h.bus
  refine ⟨?_, h.config_eq, h.config_eq', h.ready, hbus, hdevices⟩
  unfold attempts
  rw [List.filterMap_filterMap, List.filterMap_filterMap]
  exact hsignals

theorem InTandem.steps
    (hlockstep : Lockstep (RegisterMap.forChipset config.chipset).stillBits related)
    {run run' : List (Step β)} (hrun : List.Forall₂ (Step.Paired related) run run') :
    ∀ {session : Session β σ} {session' : Session β σ'}, InTandem config related session session' →
      (session.attemptsOver run).filterMap Event.tip? =
          (session'.attemptsOver run').filterMap Event.tip? ∧
        (session.steps run).1 = (session'.steps run').1 := by
  induction hrun with
  | nil => exact fun _ => ⟨rfl, rfl⟩
  | cons hstep _ ih =>
    intro session session' h
    rw [attemptsOver, attemptsOver, List.filterMap_append, List.filterMap_append, steps_cons,
      steps_cons]
    cases hstep with
    | start =>
      obtain ⟨hanswer, hafter⟩ := h.start hlockstep
      obtain ⟨hedges, hanswers⟩ := ih hafter
      exact ⟨congrArg _ hedges, congrArg₂ (· :: ·) hanswer hanswers⟩
    | tick =>
      obtain ⟨htip, hafter⟩ := h.tick hlockstep
      obtain ⟨hedges, hanswers⟩ := ih hafter
      exact ⟨congrArg₂ (· ++ ·) htip hedges, hanswers⟩
    | change hchange =>
      have hafter : InTandem config related (session.step (.change _)).2
          (session'.step (.change _)).2 :=
        ⟨h.config_eq, h.config_eq', h.ready, hchange _ _ h.bus, h.devices⟩
      exact ih hafter

/-- **Motion that leaves the tip alone presses nothing.** Two new sessions with the same
configuration are driven by the same starts and ticks, on buses that answer everything the
same, but for the counters of game port 0 outside the bit of the tip. Then the pens report
the same edges of the tip and of the pen tool, in the same order, and starts are answered
the same. -/
theorem tip_ignores_motion
    (hlockstep : Lockstep (RegisterMap.forChipset config.chipset).stillBits related)
    {bus bus' : β} (hbus : related bus bus') (sink : σ) (sink' : σ') {run run' : List (Step β)}
    (hrun : List.Forall₂ (Step.Paired related) run run') :
    let session := new bus sink config
    let session' := new bus' sink' config
    (session.attemptsOver run).filterMap Event.tip? =
        (session'.attemptsOver run').filterMap Event.tip? ∧
      (session.steps run).1 = (session'.steps run').1 :=
  InTandem.steps hlockstep hrun ⟨rfl, rfl, rfl, hbus, Devices.inTandem_ofConfig config⟩

/-- A mouse that is moved and one that stays, while a pen with its tip up is seen. -/
theorem tip_ignores_motion_of_a_few_counts :
    let map := RegisterMap.forChipset .ocs
    let config : Config := { keyboard := false }
    let related := MemoryBus.SameBut map.stillBits
    let bus := (({} : MemoryBus).setLevel map.potgor 0xD500).setLevel map.joy0dat 0x0041
    let still : MemoryBus → MemoryBus := (·.setLevel map.joy0dat 0x0041)
    let moved : MemoryBus → MemoryBus := (·.setLevel map.joy0dat 0x0746)
    let session := new bus ({} : RecordingSink) config
    Lockstep map.stillBits related ∧ related bus bus ∧
      List.Forall₂ (Step.Paired related) [.start, .tick, .change still, .tick]
        [.start, .tick, .change moved, .tick] ∧
      session.attemptsOver [.start, .tick, .change still, .tick] ≠
        session.attemptsOver [.start, .tick, .change moved, .tick] ∧
      (session.attemptsOver [.start, .tick, .change still, .tick]).filterMap Event.tip? =
        (session.attemptsOver [.start, .tick, .change moved, .tick]).filterMap Event.tip? := by
  intro map config related bus still moved session
  have hlockstep : Lockstep map.stillBits related := MemoryBus.lockstep_sameBut map.stillBits
  have hbus : related bus bus := .refl fun _ => rfl
  have hchange : Step.Paired related (.change still) (.change moved) :=
    .change fun _ _ h => h.setLevel (by decide)
  have hrun : List.Forall₂ (Step.Paired related) [.start, .tick, .change still, .tick]
      [.start, .tick, .change moved, .tick] :=
    .cons .start (.cons .tick (.cons hchange (.cons .tick .nil)))
  exact ⟨hlockstep, hbus, hrun, by decide,
    (tip_ignores_motion hlockstep hbus session.sink session.sink hrun).1⟩

/-- A mouse that is moved by one count to the left presses the tip of a pen that is seen. -/
theorem motion_presses_tip :
    let map := RegisterMap.forChipset .ocs
    let config : Config := { keyboard := false }
    let bus := (idleMachine map).setLevel map.potgor 0xD500
    let session := new bus ({} : RecordingSink) config
    let moved : MemoryBus → MemoryBus := (·.setLevel map.joy0dat 0x003F)
    (session.attemptsOver [.start, .tick, .tick]).filterMap Event.tip? = [] ∧
      (session.attemptsOver [.start, .tick, .change moved, .tick]).filterMap Event.tip? =
        [(.touch, true), (.toolPen, true)] := by
  decide

end Session

end InputBridge
