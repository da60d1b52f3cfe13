import InputBridge.Proofs.Device.Reports
import InputBridge.Proofs.Session.Scan

/-!
# One tick, poll by poll

A tick polls the devices in use one after the other, each on the bus that the ones before
it left: `keyboardPoll`, `mousePoll` and `lightpenPoll` are these polls. Everything about
a tick is said in terms of them: which devices failed (`scan_failed`), and what is
attempted, which is the group of each device in scan order (`attempts_eq`). A group is
what the poll attempted, closed by one sync, and so it is empty or some events of its
device and a sync (`isGroup_group`).
-/

namespace InputBridge

section Part

variable {β δ ρ : Type} [RegisterBus β] (device : Device)
  (poll : δ → Program Remark (Except BusError ρ × δ))

/-- The poll of a device, if it is in use. -/
def pollInUse (state? : Option δ) (bus : β) : Option (Polled β δ ρ) :=
  state?.map fun state => pollOnce poll state bus

omit [RegisterBus β] in
/-- Did the poll fail? -/
def Polled.failed (polled : Polled β δ ρ) : Bool := !polled.answer.isOk

omit [RegisterBus β] in
/-- The bus after a part of the scan. -/
def busAfter (bus : β) (polled? : Option (Polled β δ ρ)) : β :=
  (polled?.map fun polled => polled.left.bus).getD bus

/-- The part of a scan that polls one device, in terms of its poll. -/
theorem run_scanDevice (state? : Option δ) (bus : β) :
    ((Devices.scanDevice device poll state?).run bus).value =
        ((pollInUse poll state? bus).map Polled.after,
          (pollInUse poll state? bus).any Polled.failed) ∧
      ((Devices.scanDevice device poll state?).run bus).bus =
        busAfter bus (pollInUse poll state? bus) ∧
      ((Devices.scanDevice device poll state?).run bus).remarks.filterMap Signal.event? =
        closed (((pollInUse poll state? bus).map Polled.events).getD []) := by
  cases state? with
  | none => exact ⟨rfl, rfl, rfl⟩
  | some state =>
    have hvalue : (((poll state).grouped device).run bus).value =
        (pollOnce poll state bus).left.value := by rw [Program.run_grouped]; rfl
    have hbus :
        (((poll state).grouped device).run bus).bus = (pollOnce poll state bus).left.bus := by
      rw [Program.run_grouped]; rfl
    have hevents : (((poll state).grouped device).run bus).remarks.filterMap Signal.event? =
        closed (pollOnce poll state bus).events := events_grouped device (poll state) bus
    unfold Devices.scanDevice pollInUse busAfter Polled.failed Polled.answer Polled.after
    rw [Program.run_bind]
    dsimp only [Option.map_some, Option.getD_some, Option.any_some]
    rw [← hvalue, ← hbus, ← hevents]
    generalize ((poll state).grouped device).run bus = ran
    obtain ⟨⟨answer, after⟩, bus', signals⟩ := ran
    cases answer with
    | ok result =>
      refine ⟨rfl, rfl, ?_⟩
      exact congrArg (List.filterMap Signal.event?) (List.append_nil signals)
    | error cause =>
      -- The note of the failure is no event.
      refine ⟨rfl, rfl, ?_⟩
      exact (List.filterMap_append ..).trans (List.append_nil _)

/-- The part of a scan speaks for its device only. -/
theorem of_scanDevice (state? : Option δ) (bus : β) :
    ∀ signal ∈ ((Devices.scanDevice device poll state?).run bus).remarks, signal.Of device := by
  have hpart : (Devices.scanDevice device poll state?).Within (({} : Scope Remark).speaking device)
      fun result => ∀ state ∈ result.1, True :=
    Devices.scanDevice_within fun state _ => Program.within_true (poll state)
  exact hpart.remarks_run bus

variable {device poll}

theorem reports_pollInUse (h : ∀ state, (poll state).Within device.speech fun _ => True)
    (state? : Option δ) (bus : β) :
    ∀ event ∈ ((pollInUse poll state? bus).map Polled.events).getD [], device.Reports event := by
  cases state? with
  | none => exact fun _ hin => absurd hin List.not_mem_nil
  | some state => exact (h state).reports bus

end Part

/-- A group of a device: nothing, or some of its events, none of them a sync, and one sync
after them. -/
def Device.IsGroup (device : Device) (events : List Event) : Prop :=
  events = [] ∨
    ∃ body, body ≠ [] ∧ (∀ event ∈ body, device.Reports event ∧ event ≠ .sync) ∧
      events = body ++ [.sync]

theorem isGroup_closed {device : Device} {events : List Event}
    (h : ∀ event ∈ events, device.Reports event) : device.IsGroup (closed events) := by
  unfold closed
  split
  next => exact Or.inl rfl
  next hsome =>
    have hbody : ∀ event ∈ events, device.Reports event ∧ event ≠ .sync := by
      intro event hin
      refine ⟨h event hin, fun hsync => device.not_reports_sync ?_⟩
      exact hsync ▸ h event hin
    exact Or.inr ⟨events, hsome, hbody, rfl⟩

namespace Session

variable {β σ : Type} [RegisterBus β] (session : Session β σ)

/-! ## The polls of a tick -/

/-- The poll of the keyboard in the next tick. -/
def keyboardPoll : Option (Polled β Keyboard Nat) :=
  pollInUse Keyboard.poll session.devices.keyboard session.bus

/-- The poll of the mouse in the next tick, on the bus that the keyboard leaves. -/
def mousePoll : Option (Polled β Mouse Unit) :=
  pollInUse Mouse.poll session.devices.mouse (busAfter session.bus session.keyboardPoll)

/-- The poll of the pen in the next tick, on the bus that keyboard and mouse leave. -/
def lightpenPoll : Option (Polled β Lightpen Unit) :=
  pollInUse Lightpen.poll session.devices.lightpen
    (busAfter (busAfter session.bus session.keyboardPoll) session.mousePoll)

/-- Is the device in use, and does its poll in the next tick fail? -/
def pollFails : Device → Bool
  | .keyboard => session.keyboardPoll.any Polled.failed
  | .mouse => session.mousePoll.any Polled.failed
  | .lightpen => session.lightpenPoll.any Polled.failed

/-- What the poll of a device in the next tick attempts. -/
def pollEvents : Device → List Event
  | .keyboard => (session.keyboardPoll.map Polled.events).getD []
  | .mouse => (session.mousePoll.map Polled.events).getD []
  | .lightpen => (session.lightpenPoll.map Polled.events).getD []

/-- A scan, part by part. -/
theorem scan_parts :
    let keyboard := (Devices.scanDevice .keyboard Keyboard.poll session.devices.keyboard).run
      session.bus
    let mouse := (Devices.scanDevice .mouse Mouse.poll session.devices.mouse).run
      (busAfter session.bus session.keyboardPoll)
    let pen := (Devices.scanDevice .lightpen Lightpen.poll session.devices.lightpen).run
      (busAfter (busAfter session.bus session.keyboardPoll) session.mousePoll)
    (session.devices.scan.run session.bus).value.2 =
        ⟨keyboard.value.2, mouse.value.2, pen.value.2⟩ ∧
      session.signals = keyboard.remarks ++ (mouse.remarks ++ pen.remarks) := by
  intro keyboard mouse pen
  have hkeyboard : keyboard.bus = busAfter session.bus session.keyboardPoll :=
    (run_scanDevice ..).2.1
  have hmouse : mouse.bus =
      busAfter (busAfter session.bus session.keyboardPoll) session.mousePoll :=
    (run_scanDevice ..).2.1
  unfold signals Devices.scan
  rw [Program.run_bind, Program.run_bind, Program.run_bind, Program.run_pure, List.append_nil,
    hkeyboard, hmouse]
  exact ⟨rfl, rfl⟩

theorem scan_failed (device : Device) :
    (session.devices.scan.run session.bus).value.2.get device = session.pollFails device := by
  rw [session.scan_parts.1]
  cases device with
  | keyboard => exact congrArg Prod.snd (run_scanDevice ..).1
  | mouse => exact congrArg Prod.snd (run_scanDevice ..).1
  | lightpen => exact congrArg Prod.snd (run_scanDevice ..).1

/-- A tick leaves the devices as their polls do, and the bus as the last poll does. -/
theorem tick_parts [EventSink σ] :
    session.tick.value.devices = ⟨session.keyboardPoll.map Polled.after,
        session.mousePoll.map Polled.after, session.lightpenPoll.map Polled.after⟩ ∧
      session.tick.value.bus = busAfter
        (busAfter (busAfter session.bus session.keyboardPoll) session.mousePoll)
        session.lightpenPoll := by
  have hkeyboard := run_scanDevice .keyboard Keyboard.poll session.devices.keyboard session.bus
  have hmouse := run_scanDevice .mouse Mouse.poll session.devices.mouse
    (busAfter session.bus session.keyboardPoll)
  have hpen := run_scanDevice .lightpen Lightpen.poll session.devices.lightpen
    (busAfter (busAfter session.bus session.keyboardPoll) session.mousePoll)
  have hafterKeyboard : _ = busAfter session.bus session.keyboardPoll := hkeyboard.2.1
  have hafterMouse : _ = busAfter (busAfter session.bus session.keyboardPoll) session.mousePoll :=
    hmouse.2.1
  unfold tick Devices.scan
  rw [Program.run_bind, Program.run_bind, Program.run_bind, Program.run_pure, hafterKeyboard,
    hafterMouse]
  refine ⟨?_, hpen.2.1⟩
  rw [Devices.mk.injEq]
  exact ⟨congrArg Prod.fst hkeyboard.1, congrArg Prod.fst hmouse.1, congrArg Prod.fst hpen.1⟩

/-! ## The groups of a tick -/

/-- The group of a device is what its poll attempts, closed by a sync. -/
theorem group_eq (device : Device) : session.group device = closed (session.pollEvents device) := by
  have hkeyboard := of_scanDevice .keyboard Keyboard.poll session.devices.keyboard session.bus
  have hmouse := of_scanDevice .mouse Mouse.poll session.devices.mouse
    (busAfter session.bus session.keyboardPoll)
  have hpen := of_scanDevice .lightpen Lightpen.poll session.devices.lightpen
    (busAfter (busAfter session.bus session.keyboardPoll) session.mousePoll)
  unfold group
  rw [session.scan_parts.2, List.filterMap_append, List.filterMap_append]
  cases device with
  | keyboard =>
    rw [eventOf?_eq_nil (by decide) hmouse, eventOf?_eq_nil (by decide) hpen,
      eventOf?_eq_event? hkeyboard, List.append_nil, List.append_nil]
    exact (run_scanDevice ..).2.2
  | mouse =>
    rw [eventOf?_eq_nil (by decide) hkeyboard, eventOf?_eq_nil (by decide) hpen,
      eventOf?_eq_event? hmouse, List.nil_append, List.append_nil]
    exact (run_scanDevice ..).2.2
  | lightpen =>
    rw [eventOf?_eq_nil (by decide) hkeyboard, eventOf?_eq_nil (by decide) hmouse,
      eventOf?_eq_event? hpen, List.nil_append, List.nil_append]
    exact (run_scanDevice ..).2.2

/-- A tick attempts the groups of the devices, in scan order. -/
theorem attempts_eq :
    session.attempts =
      session.group .keyboard ++ session.group .mouse ++ session.group .lightpen := by
  rw [group_eq, group_eq, group_eq]
  unfold attempts
  rw [session.scan_parts.2, List.filterMap_append, List.filterMap_append, List.append_assoc]
  have hkeyboard := (run_scanDevice .keyboard Keyboard.poll session.devices.keyboard
    session.bus).2.2
  have hmouse := (run_scanDevice .mouse Mouse.poll session.devices.mouse
    (busAfter session.bus session.keyboardPoll)).2.2
  have hpen := (run_scanDevice .lightpen Lightpen.poll session.devices.lightpen
    (busAfter (busAfter session.bus session.keyboardPoll) session.mousePoll)).2.2
  rw [hkeyboard, hmouse, hpen]
  rfl

theorem reports_pollEvents (device : Device) :
    ∀ event ∈ session.pollEvents device, device.Reports event := by
  cases device with
  | keyboard => exact reports_pollInUse reports_keyboard _ _
  | mouse => exact reports_pollInUse reports_mouse _ _
  | lightpen => exact reports_pollInUse reports_lightpen _ _

theorem isGroup_group (device : Device) : device.IsGroup (session.group device) := by
  rw [group_eq]
  exact isGroup_closed (session.reports_pollEvents device)

end Session

end InputBridge
