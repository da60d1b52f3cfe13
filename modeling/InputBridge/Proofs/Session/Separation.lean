import InputBridge.Proofs.Bus.View
import InputBridge.Proofs.Session.Wiring

/-!
# The keyboard and the pointers

Mouse and pen share a port with the keyboard, which strobes its columns on it every
tick and may stop anywhere. `pointers_ignore_keyboard` says that they never notice: two
sessions that agree on what the pointers are and see report the same for them, tick
after tick, whatever their keyboards are and do.

`Agree` is the relation between two such sessions. What a keyboard does is not seen from
the pointers (`keyboard_unseen`), so their part of a tick is the same in both
(`agree_scan`), and the sessions still agree after it (`agree_tick`).
-/

namespace InputBridge

open MemoryBus (SameView SamePins Unseen)

/-- The registers that the pointers in use may read. -/
def Devices.pointerReads (devices : Devices) : List Address :=
  (devices.mouse.map Mouse.reads).getD [] ++ (devices.lightpen.map Lightpen.reads).getD []

/-- The registers of a machine that pointers read. -/
def RegisterMap.pointerRegisters (map : RegisterMap) : List Address :=
  [map.ciaaPra, map.joy0dat, map.joy1dat, map.potgor, map.vposr, map.vhposr]

/-! ## A scan of the keyboard -/

/-- What the keyboard of a machine may do in a poll, as far as a bus is concerned. -/
def RegisterMap.keyboardScope (map : RegisterMap) : Scope Remark where
  reads address _ := address = map.rowSense
  writes address _ _ := address = map.columnSelect

section Keyboard

variable {chipset : Chipset} {devices : Devices}

theorem scan_keyboard_within (hwired : devices.Wired chipset) :
    (Devices.scanDevice .keyboard Keyboard.poll devices.keyboard).Within
      ((RegisterMap.forChipset chipset).keyboardScope.speaking .keyboard) fun result =>
        ∀ keyboard ∈ result.1, True := by
  refine Devices.scanDevice_within fun keyboard hin => ?_
  obtain ⟨held, rfl⟩ := hwired.keyboard keyboard hin
  refine (Keyboard.poll_within _).imp (fun moment hmoment => ?_) fun _ _ => trivial
  cases moment with
  | read => exact hmoment.1
  | write => exact hmoment.1
  | remark => exact trivial

/-- What a keyboard does to a register file whose fire lines are pins is not seen from
the pointers. -/
theorem keyboard_unseen (hwired : devices.Wired chipset) {registers : List Address}
    (hsense : (RegisterMap.forChipset chipset).rowSense ∉ registers) {bus : MemoryBus}
    (hview : SameView ((RegisterMap.forChipset chipset).pointerHeed registers) bus bus)
    (hpins : bus.pins (RegisterMap.forChipset chipset).ciaaPra &&& 0x00C0 = 0x00C0) :
    Unseen ((RegisterMap.forChipset chipset).pointerHeed registers) bus
      ((Devices.scanDevice .keyboard Keyboard.poll devices.keyboard).run bus).bus := by
  refine (scan_keyboard_within hwired).bus_run (fun address width after hread hunseen => ?_)
    (fun address width value after hwrite hunseen => ?_) ⟨hview, fun _ => rfl⟩
  · have haddress : address = (RegisterMap.forChipset chipset).rowSense := hread
    exact hunseen.read fun hin => hsense (haddress ▸ hin)
  · -- The strobe is written to the port of the fire buttons, which are pins there.
    have haddress : address = (RegisterMap.forChipset chipset).ciaaPra := hwrite
    refine hunseen.write ?_
    rw [haddress]
    exact hpins

end Keyboard

/-! ## A scan of the pointers -/

/-- The pointers in use read no other registers than these. -/
structure Devices.PointersHeed (chipset : Chipset) (registers : List Address) (devices : Devices) :
    Prop where
  mouse : ∀ mouse ∈ devices.mouse, mouse.Heeds chipset registers
  lightpen : ∀ pen ∈ devices.lightpen, pen.Heeds chipset registers

theorem scanPointers_alike {chipset : Chipset} {registers : List Address} {devices : Devices}
    (h : devices.PointersHeed chipset registers) :
    Program.Alike ((RegisterMap.forChipset chipset).pointerHeed registers)
      (fun result => (∀ mouse ∈ result.1.1, mouse.Heeds chipset registers) ∧
        ∀ pen ∈ result.2.1, pen.Heeds chipset registers)
      devices.scanPointers devices.scanPointers := by
  refine (Devices.scanDevice_alike fun mouse hin => Mouse.poll_alike (h.mouse mouse hin)).bind
    fun _ hmouse => ?_
  refine (Devices.scanDevice_alike fun pen hin =>
    Lightpen.poll_alike (h.lightpen pen hin)).bind fun _ hpen => ?_
  exact .done ⟨hmouse, hpen⟩

/-! ## Two sessions -/

section Sessions

variable {σ σ' : Type} {chipset chipset' : Chipset} {registers : List Address}

/-- Two sessions that agree on their pointers and on what these see, with keyboards that
may differ in everything. -/
structure Agree (chipset chipset' : Chipset) (registers : List Address)
    (session : Session MemoryBus σ) (session' : Session MemoryBus σ') : Prop where
  wired : session.devices.Wired chipset
  wired' : session'.devices.Wired chipset'
  mouse : session.devices.mouse = session'.devices.mouse
  lightpen : session.devices.lightpen = session'.devices.lightpen
  heed : session.devices.PointersHeed chipset registers
  mouseFailures : session.stats.failures.mouse = session'.stats.failures.mouse
  lightpenFailures : session.stats.failures.lightpen = session'.stats.failures.lightpen
  view : SameView ((RegisterMap.forChipset chipset).pointerHeed registers) session.bus session'.bus
  pins : session.bus.pins (RegisterMap.forChipset chipset).ciaaPra &&& 0x00C0 = 0x00C0
  pins' : session'.bus.pins (RegisterMap.forChipset chipset).ciaaPra &&& 0x00C0 = 0x00C0

variable {session : Session MemoryBus σ} {session' : Session MemoryBus σ'}

/-- What the keyboard leaves of the bus of a session. -/
def Session.afterKeyboard (session : Session MemoryBus σ) : MemoryBus :=
  ((Devices.scanDevice .keyboard Keyboard.poll session.devices.keyboard).run session.bus).bus

/-- Both keyboards scan first and neither is seen, so that the pointers of both sessions
run the same program on register files that look the same to them. -/
theorem agree_scan (hsense : (RegisterMap.forChipset chipset).rowSense ∉ registers)
    (h : Agree chipset chipset' registers session session') :
    let pointers := session.devices.scanPointers.run session.afterKeyboard
    let pointers' := session'.devices.scanPointers.run session'.afterKeyboard
    pointers.value = pointers'.value ∧ pointers.remarks = pointers'.remarks ∧
      SameView ((RegisterMap.forChipset chipset).pointerHeed registers) pointers.bus
        pointers'.bus := by
  have hkeyboard := keyboard_unseen h.wired hsense h.view.left h.pins
  -- The registers are at the same addresses on every chipset.
  have hkeyboard' : Unseen ((RegisterMap.forChipset chipset).pointerHeed registers)
      session'.bus session'.afterKeyboard :=
    keyboard_unseen h.wired' hsense h.view.symm.left h.pins'
  have hview := hkeyboard.view.symm.trans (h.view.trans hkeyboard'.view)
  have hsame : session'.devices.scanPointers = session.devices.scanPointers := by
    unfold Devices.scanPointers
    rw [h.mouse, h.lightpen]
  rw [hsame]
  exact hview.alike_run (scanPointers_alike h.heed)

theorem agree_group (hsense : (RegisterMap.forChipset chipset).rowSense ∉ registers)
    (h : Agree chipset chipset' registers session session') {device : Device}
    (hdevice : device ≠ .keyboard) : session.group device = session'.group device := by
  obtain ⟨_, hremarks, _⟩ := agree_scan hsense h
  have hsilent := (scan_keyboard_within h.wired).remarks_run session.bus
  have hsilent' := (scan_keyboard_within h.wired').remarks_run session'.bus
  unfold Session.group Session.signals
  rw [Devices.scan_run, Devices.scan_run, List.filterMap_append, List.filterMap_append,
    eventOf?_eq_nil hdevice.symm hsilent, eventOf?_eq_nil hdevice.symm hsilent']
  exact congrArg (List.filterMap (Signal.eventOf? device)) hremarks

theorem agree_tick [EventSink σ] [EventSink σ']
    (hsense : (RegisterMap.forChipset chipset).rowSense ∉ registers)
    (h : Agree chipset chipset' registers session session') :
    Agree chipset chipset' registers session.tick.value session'.tick.value := by
  obtain ⟨hvalue, _, hview⟩ := agree_scan hsense h
  have hheed := (scanPointers_alike h.heed).within.value_run session.afterKeyboard
  have hran := session.devices.scan_run session.bus
  have hran' := session'.devices.scan_run session'.bus
  constructor
  case wired => exact Session.wired_tick h.wired
  case wired' => exact Session.wired_tick h.wired'
  case mouse =>
    unfold Session.tick
    rw [hran, hran']
    exact congrArg (fun value => value.1.1) hvalue
  case lightpen =>
    unfold Session.tick
    rw [hran, hran']
    exact congrArg (fun value => value.2.1) hvalue
  case heed =>
    unfold Session.tick
    rw [hran]
    exact ⟨hheed.1, hheed.2⟩
  case mouseFailures =>
    show session.stats.failures.mouse + _ = session'.stats.failures.mouse + _
    rw [hran, hran', h.mouseFailures]
    exact congrArg (fun value => _ + Bool.toNat value.1.2) hvalue
  case lightpenFailures =>
    show session.stats.failures.lightpen + _ = session'.stats.failures.lightpen + _
    rw [hran, hran', h.lightpenFailures]
    exact congrArg (fun value => _ + Bool.toNat value.2.2) hvalue
  case view =>
    unfold Session.tick
    rw [hran, hran']
    exact hview
  case pins =>
    exact (MemoryBus.samePins_run session.devices.scan session.bus _).symm ▸ h.pins
  case pins' =>
    exact (MemoryBus.samePins_run session'.devices.scan session'.bus _).symm ▸ h.pins'

theorem agree_ticked [EventSink σ] [EventSink σ']
    (hsense : (RegisterMap.forChipset chipset).rowSense ∉ registers) :
    ∀ (count : Nat) {session : Session MemoryBus σ} {session' : Session MemoryBus σ'},
      Agree chipset chipset' registers session session' →
      Agree chipset chipset' registers (session.ticked count) (session'.ticked count)
  | 0, _, _, h => h
  | count + 1, _, _, h => agree_ticked hsense count (agree_tick hsense h)

end Sessions

/-! ## What the pointers report -/

theorem Devices.mem_pointerReads {devices : Devices} {address : Address} :
    address ∈ devices.pointerReads ↔
      (∃ mouse ∈ devices.mouse, address ∈ mouse.reads) ∨
        ∃ pen ∈ devices.lightpen, address ∈ pen.reads := by
  unfold Devices.pointerReads
  rw [List.mem_append]
  cases devices.mouse <;> cases devices.lightpen <;> simp

theorem Devices.Wired.pointerReads_subset {chipset : Chipset} {devices : Devices}
    (h : devices.Wired chipset) :
    ∀ address ∈ devices.pointerReads,
      address ∈ (RegisterMap.forChipset chipset).pointerRegisters := by
  intro address hin
  unfold RegisterMap.pointerRegisters
  rcases Devices.mem_pointerReads.mp hin with ⟨mouse, hmouse, hread⟩ | ⟨pen, hpen, hread⟩
  · unfold Mouse.reads at hread
    rw [h.mouse mouse hmouse, List.mem_flatMap] at hread
    obtain ⟨port, _, hport⟩ := hread
    cases port <;> simp [Port.lines] at hport ⊢ <;> tauto
  · obtain ⟨state, rfl⟩ := h.lightpen pen hpen
    simp [Lightpen.reads, Lightpen.new] at hread ⊢
    tauto

theorem Devices.Wired.pointersHeed {chipset : Chipset} {devices : Devices}
    (h : devices.Wired chipset) : devices.PointersHeed chipset devices.pointerReads where
  mouse mouse hin :=
    ⟨h.mouse mouse hin, fun _ ha => Devices.mem_pointerReads.mpr (Or.inl ⟨mouse, hin, ha⟩)⟩
  lightpen pen hin :=
    ⟨h.lightpen pen hin, fun _ ha => Devices.mem_pointerReads.mpr (Or.inr ⟨pen, hin, ha⟩)⟩

/-- Two sessions that agree on their pointers: on their states and failures, and on the
registers that they read. Of the strobed port only the fire lines count. -/
structure PointersAgree {σ σ' : Type} (map : RegisterMap) (session : Session MemoryBus σ)
    (session' : Session MemoryBus σ') : Prop where
  mouse : session.devices.mouse = session'.devices.mouse
  lightpen : session.devices.lightpen = session'.devices.lightpen
  mouseFailures : session.stats.failures.mouse = session'.stats.failures.mouse
  lightpenFailures : session.stats.failures.lightpen = session'.stats.failures.lightpen
  levels : ∀ address ∈ session.devices.pointerReads,
    session.bus.level address &&& map.pointerBits address =
      session'.bus.level address &&& map.pointerBits address
  scripts : ∀ address ∈ session.devices.pointerReads,
    session.bus.scriptAt address = session'.bus.scriptAt address
  faults : ∀ address ∈ session.devices.pointerReads,
    session.bus.faultAt address = session'.bus.faultAt address

/-- A register file in which the strobe does not reach the pointers: the fire lines are
pins, and no register of theirs is strobed. -/
structure MemoryBus.Sheltered (map : RegisterMap) (bus : MemoryBus) : Prop where
  pinned : bus.pins map.ciaaPra &&& 0x00C0 = 0x00C0
  direct : ∀ address ∈ map.pointerRegisters, bus.strobes.get? address = none

/-- **The pointers ignore the keyboard.** Two sessions that agree on their pointers, on
register files in which the strobe does not reach these, attempt the same groups for
mouse and pen in every tick and count the same failures of them, whatever their keyboards
are, and whatever becomes of these. -/
theorem pointers_ignore_keyboard {σ σ' : Type} [EventSink σ] [EventSink σ']
    {chipset chipset' : Chipset} {session : Session MemoryBus σ} {session' : Session MemoryBus σ'}
    (hwired : session.devices.Wired chipset) (hwired' : session'.devices.Wired chipset')
    (h : PointersAgree (.forChipset chipset) session session')
    (hbus : session.bus.Sheltered (.forChipset chipset))
    (hbus' : session'.bus.Sheltered (.forChipset chipset')) (count : Nat) :
    (∀ device, device ≠ .keyboard →
        (session.ticked count).group device = (session'.ticked count).group device) ∧
      (session.ticked count).devices.mouse = (session'.ticked count).devices.mouse ∧
      (session.ticked count).devices.lightpen = (session'.ticked count).devices.lightpen ∧
      (session.ticked count).stats.failures.mouse =
        (session'.ticked count).stats.failures.mouse ∧
      (session.ticked count).stats.failures.lightpen =
        (session'.ticked count).stats.failures.lightpen := by
  have hregisters := hwired.pointerReads_subset
  have hsense : (RegisterMap.forChipset chipset).rowSense ∉ session.devices.pointerReads := by
    intro hin
    have hmem := hregisters _ hin
    revert hmem
    cases chipset <;> decide
  have hagree : Agree chipset chipset' session.devices.pointerReads session session' :=
    { h with
      wired := hwired
      wired' := hwired'
      heed := hwired.pointersHeed
      view :=
        { h with
          steady := fun a ha => hbus.direct a (hregisters a ha)
          steady' := fun a ha => hbus'.direct a (hregisters a ha) }
      pins := hbus.pinned
      pins' := hbus'.pinned }
  have hticked := agree_ticked hsense count hagree
  exact ⟨fun _ hdevice => agree_group hsense hticked hdevice, hticked.mouse, hticked.lightpen,
    hticked.mouseFailures, hticked.lightpenFailures⟩

/-- A keyboard whose strobe fails in the middle of a scan, and no keyboard at all. -/
theorem pointers_ignore_failing_keyboard :
    let map := RegisterMap.forChipset .ocs
    let bus := ((({} : MemoryBus).setPins map.ciaaPra 0x00C0).setLevel map.ciaaPra 0x0080).script
      map.joy0dat [0x0000, 0x0305, 0x0306]
    let session := Session.new
      ((bus.strobe map.rowSense map.columnSelect 0x00FF).failWrites map.columnSelect (.next 3))
      ({} : RecordingSink) {}
    let session' := Session.new (bus.setLevel map.ciaaPra 0x00BF) ({} : RecordingSink)
      { keyboard := false }
    (session.ticked 1).group .mouse = [.relative .x 5, .relative .y 3, .sync] ∧
      (session.ticked 1).group .mouse = (session'.ticked 1).group .mouse ∧
      (session.ticked 1).devices.mouse = (session'.ticked 1).devices.mouse := by
  intro map bus session session'
  have hwired : session.devices.Wired .ocs :=
    Session.wired_new session.bus session.sink {}
  have hwired' : session'.devices.Wired .ocs :=
    Session.wired_new session'.bus session'.sink { keyboard := false }
  have hlevels : ∀ address ∈ session.devices.pointerReads,
      session.bus.level address &&& map.pointerBits address =
        session'.bus.level address &&& map.pointerBits address := by
    intro address hin
    have hmem : address ∈ map.pointerRegisters := hwired.pointerReads_subset address hin
    simp only [RegisterMap.pointerRegisters, List.mem_cons, List.not_mem_nil, or_false] at hmem
    rcases hmem with rfl | rfl | rfl | rfl | rfl | rfl <;> decide
  have hagree : PointersAgree map session session' :=
    ⟨rfl, rfl, rfl, rfl, hlevels, fun _ _ => rfl, fun _ _ => rfl⟩
  have hbus : session.bus.Sheltered map := by
    refine ⟨by decide, fun address hin => ?_⟩
    have hne : address ≠ map.rowSense := by
      rintro rfl
      revert hin
      decide
    exact Table.get?_put_ne _ _ hne
  have hbus' : session'.bus.Sheltered map := ⟨by decide, fun _ _ => rfl⟩
  have h := pointers_ignore_keyboard hwired hwired' hagree hbus hbus' 1
  exact ⟨by decide, h.1 .mouse (by decide), h.2.1⟩

end InputBridge
