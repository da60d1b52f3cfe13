import InputBridge.Device.Lightpen
import InputBridge.Device.Mouse
import InputBridge.Proofs.Device.Polls
import InputBridge.Proofs.Device.Reach

/-!
# What the devices report

Each device has its own events, and none of them is a sync: syncs are the business of
the groups. `reports_keyboard`, `reports_mouse` and `reports_lightpen` say so of every
branch of a poll, the failing ones included, so that whatever a poll attempts before it
fails is an event of its device too (`Program.Within.reports`).
-/

namespace InputBridge

/-- The events that a device may report. -/
def Device.Reports : Device → Event → Prop
  | .keyboard, .key .. => True
  | .mouse, .relative .. => True
  | .mouse, .button which _ => which = .left ∨ which = .right ∨ which = .middle
  | .lightpen, .absolute .. => True
  | .lightpen, .button which _ => which = .touch ∨ which = .toolPen
  | _, _ => False

theorem Device.not_reports_sync (device : Device) : ¬device.Reports .sync := by
  cases device <;> exact id

/-- A remark of a device: a note, or one of its events. -/
def Remark.By (device : Device) : Remark → Prop
  | .event e => device.Reports e
  | .note _ => True

/-- Any accesses, and the remarks of one device. -/
def Device.speech (device : Device) : Scope Remark where
  remarks := Remark.By device

/-- What a program in the speech of a device attempts are events of that device. -/
theorem Program.Within.reports {β α : Type} [RegisterBus β] {device : Device}
    {post : α → Prop} {program : Program Remark α} (h : program.Within device.speech post)
    (bus : β) : ∀ event ∈ (program.run bus).remarks.filterMap Remark.event?,
      device.Reports event := by
  intro event hevent
  obtain ⟨remark, hremark, hsome⟩ := List.mem_filterMap.mp hevent
  have hby := h.remarks_run bus remark hremark
  cases remark with
  | event e =>
    obtain rfl : e = event := Option.some.inj hsome
    exact hby
  | note n => cases hsome

/-! ## The keyboard -/

theorem by_changeRemark (keyboard : Keyboard) (change : Change) :
    (keyboard.changeRemark change).By .keyboard := by
  unfold Keyboard.changeRemark
  split <;> trivial

/-- What every remark on a changed snapshot is, every remark of a poll is. -/
theorem Keyboard.poll_remarks {allowed : Remark → Prop} (keyboard : Keyboard)
    (h : ∀ snapshot, ∀ remark ∈ keyboard.changeRemarks snapshot, allowed remark) :
    keyboard.poll.Within { remarks := allowed } fun _ => True := by
  have hscan : (keyboard.scan (ω := Remark)).Within { remarks := allowed } fun _ => True := by
    refine keyboard.scan_within.imp (fun moment hmoment => ?_) fun _ h => h
    cases moment with
    | read => exact trivial
    | write => exact trivial
    | remark => exact absurd hmoment id
  refine Program.within_bind hscan fun answer _ => ?_
  cases answer with
  | error cause => exact Program.within_pure trivial
  | ok snapshot =>
    have hprocess : (keyboard.process snapshot).Within { remarks := allowed } fun _ => True :=
      Program.within_bind (Program.within_remarks (h snapshot)) fun _ _ =>
        Program.within_pure trivial
    exact Program.within_bind hprocess fun _ _ => Program.within_pure trivial

theorem reports_keyboard (keyboard : Keyboard) :
    keyboard.poll.Within Device.keyboard.speech fun _ => True := by
  refine keyboard.poll_remarks fun snapshot remark hin => ?_
  obtain ⟨change, _, rfl⟩ := List.mem_map.mp hin
  exact by_changeRemark keyboard change

/-! ## The mouse -/

theorem by_motionRemarks (port : Port) (report pending : Int32 × Int32) :
    ∀ remark ∈ Mouse.motionRemarks port report pending, remark.By .mouse := by
  intro remark hin
  unfold Mouse.motionRemarks at hin
  rcases List.mem_append.mp hin with hmoves | hnote
  · rcases List.mem_append.mp hmoves with hx | hy
    · split at hx
      · cases hx
      · rw [List.mem_singleton.mp hx]; trivial
    · split at hy
      · cases hy
      · rw [List.mem_singleton.mp hy]; trivial
  · split at hnote
    · cases hnote
    · rw [List.mem_singleton.mp hnote]; trivial

theorem reports_buttonEdges (changed pressed : UInt8) :
    ∀ event ∈ buttonEdges changed pressed, Device.mouse.Reports event := by
  intro event hin
  obtain ⟨⟨bit, button⟩, hbutton, hedge⟩ := List.mem_filterMap.mp hin
  have hmouse : button = .left ∨ button = .right ∨ button = .middle := by
    simp only [mouseButtons, List.mem_cons, Prod.mk.injEq, List.not_mem_nil, or_false] at hbutton
    rcases hbutton with ⟨_, rfl⟩ | ⟨_, rfl⟩ | ⟨_, rfl⟩
    · exact Or.inl rfl
    · exact Or.inr (Or.inl rfl)
    · exact Or.inr (Or.inr rfl)
  dsimp only at hedge
  split at hedge
  · cases hedge
  · rw [← Option.some.inj hedge]
    exact hmouse

namespace Mouse

section Remarks

variable {allowed : Remark → Prop}
  (hmotion : ∀ port report pending, ∀ remark ∈ motionRemarks port report pending, allowed remark)
  (hedges : ∀ changed pressed, ∀ event ∈ buttonEdges changed pressed, allowed (.event event))

include hmotion in
theorem pollMotion_remarks (mouse : Mouse) (port : Port) :
    (mouse.pollMotion port).Within { remarks := allowed } fun _ => True := by
  have hread : (mouse.readCounters port (ω := Remark)).Within { remarks := allowed }
      fun _ => True := by
    unfold readCounters
    split
    · exact Attempt.within_bind (Attempt.within_readWord trivial) fun _ _ =>
        Attempt.within_pure trivial
    · exact Attempt.within_pure trivial
  refine Program.within_bind hread fun answer _ => ?_
  cases answer with
  | error cause => exact Program.within_pure trivial
  | ok result =>
    obtain ⟨moved, counted⟩ := result
    -- Which motion it is does not matter, so it is not computed.
    dsimp only
    unfold reportMotion
    generalize (counted.stateOf port).accumulate _ _ _ = accumulated
    obtain ⟨report, state⟩ := accumulated
    have hremarks := hmotion port report state.pending
    have hreport : ∀ after : Mouse, (Program.remarks (motionRemarks port report state.pending) >>=
        fun _ => pure after).Within { remarks := allowed } fun _ => True := fun _ =>
      Program.within_bind (Program.within_remarks hremarks) fun _ _ => Program.within_pure trivial
    exact Program.within_bind (hreport _) fun _ _ => Program.within_pure trivial

include hedges in
theorem pollButtons_remarks (mouse : Mouse) (port : Port) :
    (mouse.pollButtons port).Within { remarks := allowed } fun _ => True := by
  have hread : (mouse.readButtons port (ω := Remark)).Within { remarks := allowed } fun _ => True :=
    Attempt.within_bind (Attempt.within_readByte trivial) fun _ _ =>
      Attempt.within_bind (Attempt.within_readWord trivial) fun _ _ => Attempt.within_pure trivial
  refine Program.within_bind hread fun answer _ => ?_
  cases answer with
  | error cause => exact Program.within_pure trivial
  | ok buttons =>
    have hremarks : ∀ changed, ∀ remark ∈ (buttonEdges changed buttons).map Remark.event,
        allowed remark := by
      intro changed remark hin
      obtain ⟨event, hevent, rfl⟩ := List.mem_map.mp hin
      exact hedges changed buttons event hevent
    have hreport : (mouse.reportButtons port buttons).Within { remarks := allowed } fun _ => True :=
      Program.within_bind
        (Program.within_remarks (hremarks ((mouse.stateOf port).updateButtons buttons).1))
        fun _ _ => Program.within_pure trivial
    exact Program.within_bind hreport fun _ _ => Program.within_pure trivial

include hmotion hedges

theorem pollPorts_remarks : ∀ (visits : List Port) (mouse : Mouse),
    (mouse.pollPorts visits).Within { remarks := allowed } fun _ => True
  | [], _ => Program.within_pure trivial
  | port :: rest, mouse => by
    refine Program.within_bind (pollMotion_remarks hmotion mouse port) fun moved _ => ?_
    refine Program.within_bind (pollButtons_remarks hedges moved.2 port) fun pressed _ => ?_
    refine Program.within_bind (pollPorts_remarks rest pressed.2) fun _ _ => ?_
    exact Program.within_pure trivial

/-- What every remark on motion and every edge is, every remark of a poll is. -/
theorem poll_remarks (mouse : Mouse) : mouse.poll.Within { remarks := allowed } fun _ => True := by
  refine Program.within_bind (pollPorts_remarks hmotion hedges mouse.ports mouse) fun result _ => ?_
  obtain ⟨failure, after⟩ := result
  cases failure with
  | none => exact Program.within_pure trivial
  | some cause => exact Program.within_pure trivial

end Remarks

end Mouse

theorem reports_mouse (mouse : Mouse) :
    mouse.poll.Within Device.mouse.speech fun _ => True :=
  Mouse.poll_remarks by_motionRemarks reports_buttonEdges mouse

/-! ## The lightpen -/

theorem by_tipEdges (pressed : Bool) :
    ∀ remark ∈ PenState.tipEdges pressed, remark.By .lightpen := by
  intro remark hin
  simp only [PenState.tipEdges, List.mem_cons, List.not_mem_nil, or_false] at hin
  rcases hin with rfl | rfl
  · exact Or.inl rfl
  · exact Or.inr rfl

theorem by_penRemarks (state : PenState) (seen : Option PenSighting) :
    ∀ remark ∈ state.remarks seen, remark.By .lightpen := by
  intro remark hin
  cases seen with
  | none =>
    simp only [PenState.remarks] at hin
    split at hin
    · rcases List.mem_append.mp hin with hedges | hnote
      · split at hedges
        · exact by_tipEdges false remark hedges
        · cases hedges
      · rw [List.mem_singleton.mp hnote]; trivial
    · cases hin
  | some sighting =>
    obtain ⟨beam, tipDown⟩ := sighting
    simp only [PenState.remarks] at hin
    rcases List.mem_append.mp hin with hplace | hedges
    · rcases List.mem_append.mp hplace with hnote | hmoves
      · split at hnote
        · cases hnote
        · rw [List.mem_singleton.mp hnote]; trivial
      · simp only [List.mem_cons, List.not_mem_nil, or_false] at hmoves
        rcases hmoves with rfl | rfl | rfl <;> trivial
    · split at hedges
      · cases hedges
      · exact by_tipEdges tipDown remark hedges

theorem reports_lightpen (pen : Lightpen) :
    pen.poll.Within Device.lightpen.speech fun _ => True := by
  have hsense : (pen.sense (ω := Remark)).Within Device.lightpen.speech fun _ => True := by
    have hdetect : (pen.detect (ω := Remark)).Within Device.lightpen.speech fun _ => True :=
      Attempt.within_bind (Attempt.within_readWord trivial) fun _ _ => Attempt.within_pure trivial
    have hposition : (pen.position (ω := Remark)).Within Device.lightpen.speech fun _ => True :=
      Attempt.within_bind (Attempt.within_readWord trivial) fun _ _ =>
        Attempt.within_bind (Attempt.within_readWord trivial) fun _ _ => Attempt.within_pure trivial
    have htip : (pen.tip (ω := Remark)).Within Device.lightpen.speech fun _ => True :=
      Attempt.within_bind (Attempt.within_readWord trivial) fun _ _ => Attempt.within_pure trivial
    have hsighting : (pen.sighting (ω := Remark)).Within Device.lightpen.speech fun _ => True :=
      Attempt.within_bind hposition fun _ _ => Attempt.within_bind htip fun _ _ =>
        Attempt.within_pure trivial
    refine Attempt.within_bind hdetect fun detected _ => ?_
    split
    · exact Attempt.within_bind hsighting fun _ _ => Attempt.within_pure trivial
    · exact Attempt.within_pure trivial
  refine Program.within_bind hsense fun answer _ => ?_
  cases answer with
  | error cause => exact Program.within_pure trivial
  | ok seen =>
    exact Program.within_bind (Program.within_remarks (by_penRemarks _ _)) fun _ _ =>
      Program.within_pure trivial

end InputBridge
