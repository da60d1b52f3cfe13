import InputBridge.Proofs.Config.Validity
import InputBridge.Proofs.Device.CalmPolls
import InputBridge.Proofs.Session.Makeup
import InputBridge.Proofs.Session.Tick

/-!
# One tick on a calm register file

On a calm register file no poll fails, and a tick is a function of the devices and of the
state of the registers. The keyboard scans first and leaves no column selected; so mouse
and pen sense the registers as they are then, `Session.unselected`, and the tick leaves
them like that. `CalmTick` says what each device attempts and what becomes of it.
-/

namespace InputBridge

open MemoryBus (SameOutside)

theorem Polled.failed_of_ok {β δ ρ : Type} {polled : Polled β δ ρ} {result : ρ}
    (h : polled.answer = .ok result) : polled.failed = false := by
  unfold Polled.failed
  rw [h]
  rfl

namespace Session

/-! ## What is said of a port -/

section Parts

variable {β σ : Type} [RegisterBus β] (session : Session β σ)

/-- What is said of a port in the next tick. -/
def portRemarks (port : Port) : List Remark :=
  (session.mousePoll.map fun polled => saidOf port
    (attributed polled.device.map none (polled.device.poll.history polled.bus))).getD []

end Parts

/-! ## On a calm register file -/

variable {σ : Type} (session : Session MemoryBus σ)

/-- The register file as the pointers find it in a tick: if there is a keyboard, it has
scanned and left no column selected. -/
def unselected : MemoryBus :=
  (session.devices.keyboard.map fun keyboard => session.bus.deselected keyboard).getD session.bus

/-- What one tick of a session does on a calm register file. -/
structure CalmTick [EventSink σ] : Prop where
  keyboardEvents : session.pollEvents .keyboard =
    (session.devices.keyboard.map fun keyboard => Position.all.filterMap
      (edgeAt keyboard.keymap keyboard.held (session.bus.matrix keyboard))).getD []
  keyboardAfter : session.tick.value.devices.keyboard = session.devices.keyboard.map
    fun keyboard => { keyboard with held := session.bus.matrix keyboard }
  mouseEvents : session.pollEvents .mouse =
    (session.devices.mouse.map fun mouse => mouse.ports.flatMap fun port =>
      (session.portRemarks port).filterMap Remark.event?).getD []
  ports : ∀ mouse ∈ session.devices.mouse, ∀ port ∈ mouse.ports,
    session.portRemarks port = (mouse.visit session.unselected port).1
  mouseAfter : session.tick.value.devices.mouse =
    session.devices.mouse.map fun mouse => mouse.visited session.unselected
  penEvents : session.pollEvents .lightpen =
    (session.devices.lightpen.map fun pen =>
      (pen.state.remarks (session.unselected.seenBy pen)).filterMap Remark.event?).getD []
  penAfter : session.tick.value.devices.lightpen = session.devices.lightpen.map
    fun pen => { pen with state := pen.state.next (session.unselected.seenBy pen) }
  passes : ∀ device, session.pollFails device = false
  calm : session.tick.value.bus.Calm
  left : SameOutside [] session.tick.value.bus session.unselected

variable {session} {config : Config} (hcalm : session.bus.Calm)

include hcalm

/-- The poll of the keyboard. -/
theorem keyboardPoll_calm :
    (session.keyboardPoll.map Polled.events).getD [] =
        (session.devices.keyboard.map fun keyboard => Position.all.filterMap
          (edgeAt keyboard.keymap keyboard.held (session.bus.matrix keyboard))).getD [] ∧
      session.keyboardPoll.map Polled.after = session.devices.keyboard.map
        (fun keyboard => { keyboard with held := session.bus.matrix keyboard }) ∧
      session.keyboardPoll.any Polled.failed = false ∧
      (busAfter session.bus session.keyboardPoll).Calm ∧
      SameOutside [] (busAfter session.bus session.keyboardPoll) session.unselected := by
  unfold keyboardPoll unselected
  cases session.devices.keyboard with
  | none => exact ⟨rfl, rfl, rfl, hcalm, SameOutside.refl ..⟩
  | some keyboard =>
    obtain ⟨hevents, hanswer, hafter, hleft, hsame⟩ := keyboard.poll_calm hcalm
    exact ⟨hevents, congrArg some hafter, congrArg not hanswer, hleft, hsame⟩

/-- The poll of the mouse. -/
theorem mousePoll_calm (hasked : session.devices.MouseAsked config)
    (hnodup : config.mousePorts.Nodup) :
    (session.mousePoll.map Polled.events).getD [] =
        (session.devices.mouse.map fun mouse => mouse.ports.flatMap fun port =>
          (session.portRemarks port).filterMap Remark.event?).getD [] ∧
      (∀ mouse ∈ session.devices.mouse, ∀ port ∈ mouse.ports,
        session.portRemarks port = (mouse.visit session.unselected port).1) ∧
      session.mousePoll.map Polled.after =
        (session.devices.mouse.map fun mouse => mouse.visited session.unselected) ∧
      session.mousePoll.any Polled.failed = false ∧
      (busAfter (busAfter session.bus session.keyboardPoll) session.mousePoll).Calm ∧
      SameOutside [] (busAfter (busAfter session.bus session.keyboardPoll) session.mousePoll)
        session.unselected := by
  obtain ⟨-, -, -, hfound, hsame⟩ := keyboardPoll_calm hcalm
  generalize session.unselected = unselected at hsame
  unfold portRemarks mousePoll
  generalize busAfter session.bus session.keyboardPoll = found at hfound hsame
  cases hmouse : session.devices.mouse with
  | none => exact ⟨rfl, nofun, rfl, rfl, hfound, hsame⟩
  | some mouse =>
    have hin := hasked mouse hmouse
    obtain ⟨hremarks, hanswer, hafter, hleft, hquiet, hsaid⟩ :=
      Mouse.poll_calm hin.map_eq (hin.ports_eq ▸ hnodup) hfound
    have hports : ∀ port ∈ mouse.ports,
        saidOf port (attributed mouse.map none (mouse.poll.history found)) =
          (mouse.visit unselected port).1 := by
      intro port hport
      rw [hin.map_eq, hsaid, if_pos hport, Mouse.visit_congr hsame]
    refine ⟨?_, ?_, ?_, Polled.failed_of_ok hanswer, hleft, hquiet.trans hsame⟩
    · show (pollOnce Mouse.poll mouse found).left.remarks.filterMap Remark.event? = _
      rw [hremarks, List.filterMap_flatMap]
      refine List.flatMap_congr fun port hport => ?_
      rw [Mouse.visit_congr hsame, ← hports port hport]
      rfl
    · intro other hother
      obtain rfl : mouse = other := Option.some.inj hother
      exact hports
    · exact congrArg some (hafter.trans (Mouse.visited_congr hsame))

variable [EventSink σ]

/-- The poll of the pen, which is the last one. -/
theorem lightpenPoll_calm (hasked : session.devices.MouseAsked config)
    (hnodup : config.mousePorts.Nodup) :
    (session.lightpenPoll.map Polled.events).getD [] =
        (session.devices.lightpen.map fun pen =>
          (pen.state.remarks (session.unselected.seenBy pen)).filterMap Remark.event?).getD [] ∧
      session.lightpenPoll.map Polled.after = session.devices.lightpen.map
        (fun pen => { pen with state := pen.state.next (session.unselected.seenBy pen) }) ∧
      session.lightpenPoll.any Polled.failed = false ∧
      session.tick.value.bus.Calm ∧
      SameOutside [] session.tick.value.bus session.unselected := by
  obtain ⟨-, -, -, -, hfound, hsame⟩ := mousePoll_calm hcalm hasked hnodup
  rw [session.tick_parts.2]
  generalize session.unselected = unselected at hsame
  unfold lightpenPoll
  generalize busAfter (busAfter session.bus session.keyboardPoll) session.mousePoll = found
    at hfound hsame
  cases session.devices.lightpen with
  | none => exact ⟨rfl, rfl, rfl, hfound, hsame⟩
  | some pen =>
    obtain ⟨hremarks, hanswer, hafter, hleft, hquiet⟩ := pen.poll_calm hfound
    have hseen : found.seenBy pen = unselected.seenBy pen :=
      MemoryBus.seenBy_congr fun _ _ => hsame.steady_eq _
    rw [hseen] at hremarks hafter
    exact ⟨congrArg (List.filterMap Remark.event?) hremarks, congrArg some hafter,
      Polled.failed_of_ok hanswer, hleft, hquiet.trans hsame⟩

/-- A tick on a calm register file. -/
theorem calmTick (hasked : session.devices.MouseAsked config)
    (hnodup : config.mousePorts.Nodup) : session.CalmTick := by
  obtain ⟨hkeyEvents, hkeyAfter, hkeyPasses, -, -⟩ := keyboardPoll_calm hcalm
  obtain ⟨hmouseEvents, hports, hmouseAfter, hmousePasses, -, -⟩ :=
    mousePoll_calm hcalm hasked hnodup
  obtain ⟨hpenEvents, hpenAfter, hpenPasses, hleft, hsame⟩ :=
    lightpenPoll_calm hcalm hasked hnodup
  constructor
  case keyboardEvents => exact hkeyEvents
  case keyboardAfter => rw [session.tick_parts.1]; exact hkeyAfter
  case mouseEvents => exact hmouseEvents
  case ports => exact hports
  case mouseAfter => rw [session.tick_parts.1]; exact hmouseAfter
  case penEvents => exact hpenEvents
  case penAfter => rw [session.tick_parts.1]; exact hpenAfter
  case passes =>
    intro device
    cases device with
    | keyboard => exact hkeyPasses
    | mouse => exact hmousePasses
    | lightpen => exact hpenPasses
  case calm => exact hleft
  case left => exact hsame

end Session

end InputBridge
