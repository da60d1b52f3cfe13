import InputBridge.Proofs.Bus.Frame
import InputBridge.Proofs.Session.Wiring

/-!
# Setting up the devices

A device stays in use if its set-up succeeds on the bus that it meets. The keyboard
needs two writes for it, to the direction registers of both ports; the mouse a read and
a write of the first of them; the pen stays whatever happens. So the two share a
register, and the mouse meets it as the keyboard leaves it (`Devices.inUse_setUp`). On a
register file all this is decided by the faults that are pending
(`Devices.Wired.keyboard_canSetUp_iff`, `Devices.Wired.mouse_canSetUp_iff`), and the
keyboard uses one up that would have hit the mouse (`Devices.Wired.faults_keyboardLeaves`).
-/

namespace InputBridge

/-! ## One device -/

section General

variable {β : Type} [RegisterBus β]

/-- Both direction writes of the keyboard succeed, the second on the bus after the first. -/
def Keyboard.CanSetUp (keyboard : Keyboard) (bus : β) : Prop :=
  (RegisterBus.write keyboard.selectDirection .byte 0xFF bus).1 = .ok () ∧
    (RegisterBus.write keyboard.senseDirection .byte 0x00
      (RegisterBus.write keyboard.selectDirection .byte 0xFF bus).2).1 = .ok ()

/-- The mouse can read its direction register, and then write it back without the fire
lines. -/
def Mouse.CanSetUp (mouse : Mouse) (bus : β) : Prop :=
  ∃ direction, (RegisterBus.read mouse.map.ciaaDdra .byte bus).1 = .ok direction ∧
    (RegisterBus.write mouse.map.ciaaDdra .byte
      (direction.toUInt8 &&& ~~~mouse.fireBits).toUInt16
      (RegisterBus.read mouse.map.ciaaDdra .byte bus).2).1 = .ok ()

/-- Setting up a keyboard: what it answers and what it leaves of the bus. -/
theorem Keyboard.run_setUp (keyboard : Keyboard) (bus : β) :
    let first := RegisterBus.write keyboard.selectDirection .byte 0xFF bus
    let second := RegisterBus.write keyboard.senseDirection .byte 0x00 first.2
    (((keyboard.setUp (ω := Note)).run.run bus).value = .ok () ↔ keyboard.CanSetUp bus) ∧
      ((keyboard.setUp (ω := Note)).run.run bus).bus =
        if first.1 = .ok () then second.2 else first.2 := by
  intro first second
  -- The first access of the set-up is the first write, and its answer decides the rest.
  have hrun : (keyboard.setUp (ω := Note)).run.run bus =
      (ExceptT.bindCont (fun _ => Attempt.writeByte keyboard.senseDirection 0x00)
        first.1 : Program Note (Except BusError Unit)).run first.2 := rfl
  rw [hrun]
  cases hfirst : first.1 with
  | error cause =>
    refine ⟨⟨fun hok => ?_, fun hcan => ?_⟩, rfl⟩
    · cases hok
    · cases hfirst.symm.trans hcan.1
  | ok _ => exact ⟨⟨fun hok => ⟨hfirst, hok⟩, fun hcan => hcan.2⟩, rfl⟩

theorem Mouse.setUp_ok_iff (mouse : Mouse) (bus : β) :
    ((mouse.setUp (ω := Note)).run.run bus).value = .ok () ↔ mouse.CanSetUp bus := by
  unfold setUp CanSetUp
  rw [Attempt.run_readByte_bind, Program.run]
  dsimp only
  cases (RegisterBus.read mouse.map.ciaaDdra .byte bus).1 with
  | error cause =>
    constructor
    · intro hok
      cases hok
    · rintro ⟨direction, hread, _⟩
      cases hread
  | ok direction =>
    constructor
    · exact fun hok => ⟨direction, rfl, hok⟩
    · rintro ⟨other, hread, hwrite⟩
      obtain rfl : direction = other := Except.ok.inj hread
      exact hwrite

/-- A device stays in use if its set-up succeeds. -/
theorem run_keepIfSetUp {δ : Type} (device : Device) (setUp : δ → Attempt Note Unit)
    (state? : Option δ) (bus : β) :
    (((Devices.keepIfSetUp device setUp state?).run bus).value.isSome = true ↔
        ∃ state ∈ state?, ((setUp state).run.run bus).value = .ok ()) ∧
      ((Devices.keepIfSetUp device setUp state?).run bus).bus =
        (state?.map fun state => ((setUp state).run.run bus).bus).getD bus := by
  cases state? with
  | none =>
    refine ⟨⟨fun hsome => absurd hsome Bool.false_ne_true, ?_⟩, rfl⟩
    rintro ⟨state, hin, _⟩
    cases hin
  | some state =>
    unfold Devices.keepIfSetUp
    rw [Program.run_bind]
    dsimp only [Option.map_some, Option.getD_some]
    cases hanswer : ((setUp state).run.run bus).value with
    | ok _ => exact ⟨⟨fun _ => ⟨state, rfl, hanswer⟩, fun _ => rfl⟩, rfl⟩
    | error cause =>
      refine ⟨⟨fun hsome => absurd hsome Bool.false_ne_true, ?_⟩, rfl⟩
      rintro ⟨other, hin, hok⟩
      obtain rfl : state = other := Option.some.inj hin
      cases hanswer.symm.trans hok

/-! ## All devices -/

namespace Devices

variable (devices : Devices) (bus : β)

/-- The bus as the keyboard leaves it when the devices are set up. -/
def keyboardLeaves : β :=
  ((keepIfSetUp .keyboard Keyboard.setUp devices.keyboard).run bus).bus

/-- Setting up the devices, part by part. -/
theorem setUp_parts :
    let keyboard := (keepIfSetUp .keyboard Keyboard.setUp devices.keyboard).run bus
    let mouse := (keepIfSetUp .mouse Mouse.setUp devices.mouse).run (devices.keyboardLeaves bus)
    (devices.setUp.run bus).value =
        { devices with keyboard := keyboard.value, mouse := mouse.value } ∧
      (devices.setUp.run bus).remarks = keyboard.remarks ++ (mouse.remarks ++
        (devices.lightpen.map fun pen => (pen.setUp.run mouse.bus).remarks).getD []) := by
  intro keyboard mouse
  unfold setUp
  rw [Program.run_bind, Program.run_bind]
  cases devices.lightpen with
  | none => exact ⟨rfl, rfl⟩
  | some pen =>
    rw [Program.run_bind]
    exact ⟨rfl, congrArg (fun remarks => keyboard.remarks ++ (mouse.remarks ++ remarks))
      (List.append_nil _)⟩

/-- Which devices are in use after they were set up. -/
theorem inUse_setUp :
    ((devices.setUp.run bus).value.inUse.keyboard = true ↔
        ∃ keyboard ∈ devices.keyboard, keyboard.CanSetUp bus) ∧
      ((devices.setUp.run bus).value.inUse.mouse = true ↔
        ∃ mouse ∈ devices.mouse, mouse.CanSetUp (devices.keyboardLeaves bus)) ∧
      (devices.setUp.run bus).value.inUse.lightpen = devices.inUse.lightpen := by
  obtain ⟨hkeyboard, _⟩ := run_keepIfSetUp .keyboard Keyboard.setUp devices.keyboard bus
  obtain ⟨hmouse, _⟩ := run_keepIfSetUp .mouse Mouse.setUp devices.mouse
    (devices.keyboardLeaves bus)
  rw [(devices.setUp_parts bus).1]
  refine ⟨hkeyboard.trans ?_, hmouse.trans ?_, rfl⟩
  · simp only [(Keyboard.run_setUp _ _).1]
  · simp only [Mouse.setUp_ok_iff]

end Devices

end General

/-! ## On a register file -/

namespace MemoryBus

theorem write_ok_iff {bus : MemoryBus} {address : Address} {width : Width} {value : UInt16} :
    (RegisterBus.write address width value bus).1 = .ok () ↔
      bus.writeFaultAt address = .next 0 := by
  show (bus.write address width value).1 = _ ↔ _
  rw [answer_write]
  split
  next h => exact ⟨fun _ => h, fun _ => rfl⟩
  next h =>
    refine ⟨fun hok => ?_, fun hnone => absurd hnone h⟩
    cases hok

theorem keyboard_canSetUp_iff {keyboard : Keyboard} {bus : MemoryBus}
    (h : keyboard.senseDirection ≠ keyboard.selectDirection) :
    keyboard.CanSetUp bus ↔ bus.writeFaultAt keyboard.selectDirection = .next 0 ∧
      bus.writeFaultAt keyboard.senseDirection = .next 0 := by
  have hother : (RegisterBus.write keyboard.selectDirection .byte 0xFF bus).2.writeFaultAt
      keyboard.senseDirection = bus.writeFaultAt keyboard.senseDirection :=
    writeFaultAt_write.trans (if_neg h)
  unfold Keyboard.CanSetUp
  rw [write_ok_iff, write_ok_iff, hother]

theorem mouse_canSetUp_iff {mouse : Mouse} {bus : MemoryBus} :
    mouse.CanSetUp bus ↔ bus.faultAt mouse.map.ciaaDdra = .next 0 ∧
      bus.writeFaultAt mouse.map.ciaaDdra = .next 0 := by
  have hsame : (RegisterBus.read mouse.map.ciaaDdra .byte bus).2.writeFaultAt mouse.map.ciaaDdra =
      bus.writeFaultAt mouse.map.ciaaDdra := writeFaultAt_read
  have hread : (RegisterBus.read mouse.map.ciaaDdra .byte bus).1 = _ := answer_read
  unfold Mouse.CanSetUp
  simp only [write_ok_iff, hsame, hread]
  by_cases hfault : bus.faultAt mouse.map.ciaaDdra = .next 0
  · rw [if_pos hfault]
    constructor
    · rintro ⟨direction, _, hwrite⟩
      exact ⟨hfault, hwrite⟩
    · exact fun h => ⟨_, rfl, h.2⟩
  · rw [if_neg hfault]
    constructor
    · rintro ⟨direction, hok, _⟩
      cases hok
    · exact fun h => absurd h.1 hfault

end MemoryBus

namespace Devices.Wired

variable {chipset : Chipset} {devices : Devices}

/-- A keyboard uses up one fault for writes of the register that it shares with the
mouse, whether its set-up succeeds or not. -/
theorem faults_keyboardLeaves (h : devices.Wired chipset) (bus : MemoryBus) :
    let ddra := (RegisterMap.forChipset chipset).ciaaDdra
    (devices.keyboardLeaves bus).faultAt ddra = bus.faultAt ddra ∧
      (devices.keyboardLeaves bus).writeFaultAt ddra =
        if devices.inUse.keyboard = true then (bus.writeFaultAt ddra).used
        else bus.writeFaultAt ddra := by
  intro ddra
  have hleaves := (run_keepIfSetUp .keyboard Keyboard.setUp devices.keyboard bus).2
  unfold keyboardLeaves inUse
  rw [hleaves]
  cases hkeyboard : devices.keyboard with
  | none => exact ⟨rfl, rfl⟩
  | some keyboard =>
    obtain ⟨held, rfl⟩ := h.keyboard keyboard hkeyboard
    dsimp only [Option.map_some, Option.getD_some, Option.isSome_some]
    rw [(Keyboard.run_setUp _ bus).2, if_pos rfl]
    have hne : ddra ≠ (RegisterMap.forChipset chipset).ciaaDdrb := by
      cases chipset <;> decide
    have hfirst : (RegisterBus.write ddra .byte 0xFF bus).2.writeFaultAt ddra =
        (bus.writeFaultAt ddra).used := MemoryBus.writeFaultAt_write.trans (if_pos rfl)
    split
    · refine ⟨?_, ?_⟩
      · exact MemoryBus.faultAt_write.trans MemoryBus.faultAt_write
      · exact (MemoryBus.writeFaultAt_write.trans (if_neg hne)).trans hfirst
    · exact ⟨MemoryBus.faultAt_write, hfirst⟩

theorem keyboard_canSetUp_iff (h : devices.Wired chipset) (bus : MemoryBus) :
    (∃ keyboard ∈ devices.keyboard, keyboard.CanSetUp bus) ↔
      devices.inUse.keyboard = true ∧
        bus.writeFaultAt (RegisterMap.forChipset chipset).ciaaDdra = .next 0 ∧
        bus.writeFaultAt (RegisterMap.forChipset chipset).ciaaDdrb = .next 0 := by
  have hne : (RegisterMap.forChipset chipset).ciaaDdrb ≠
      (RegisterMap.forChipset chipset).ciaaDdra := by
    cases chipset <;> decide
  constructor
  · rintro ⟨keyboard, hin, hcan⟩
    obtain ⟨held, rfl⟩ := h.keyboard keyboard hin
    exact ⟨Option.isSome_of_mem hin, (MemoryBus.keyboard_canSetUp_iff hne).mp hcan⟩
  · rintro ⟨hsome, hfaults⟩
    obtain ⟨keyboard, hin⟩ := Option.isSome_iff_exists.mp hsome
    obtain ⟨held, rfl⟩ := h.keyboard keyboard hin
    exact ⟨_, hin, (MemoryBus.keyboard_canSetUp_iff hne).mpr hfaults⟩

theorem mouse_canSetUp_iff (h : devices.Wired chipset) (bus : MemoryBus) :
    (∃ mouse ∈ devices.mouse, mouse.CanSetUp bus) ↔
      devices.inUse.mouse = true ∧
        bus.faultAt (RegisterMap.forChipset chipset).ciaaDdra = .next 0 ∧
        bus.writeFaultAt (RegisterMap.forChipset chipset).ciaaDdra = .next 0 := by
  constructor
  · rintro ⟨mouse, hin, hcan⟩
    rw [MemoryBus.mouse_canSetUp_iff, h.mouse mouse hin] at hcan
    exact ⟨Option.isSome_of_mem hin, hcan⟩
  · rintro ⟨hsome, hfaults⟩
    obtain ⟨mouse, hin⟩ := Option.isSome_iff_exists.mp hsome
    refine ⟨mouse, hin, ?_⟩
    rw [MemoryBus.mouse_canSetUp_iff, h.mouse mouse hin]
    exact hfaults

end Devices.Wired

theorem Devices.inUse_ofConfig (config : Config) :
    (Devices.ofConfig config).inUse =
      ⟨config.keyboard, config.mouse && !config.mousePorts.isEmpty, config.lightpen⟩ := by
  unfold Devices.ofConfig Devices.inUse
  cases config.keyboard <;> cases config.mouse && !config.mousePorts.isEmpty <;>
    cases config.lightpen <;> rfl

end InputBridge
