import InputBridge.Proofs.Bus.Quiet
import InputBridge.Proofs.Device.OnPlainBus
import InputBridge.Proofs.Session.BringUp
import InputBridge.Proofs.Session.Makeup
import InputBridge.Proofs.Session.Separation

/-!
# What a session writes

A session prepares some registers when it is started, and from then on it writes to one
register only, the one that selects the column of the keyboard. `Strobes` says which writes
these are, `scan_strobes` that a tick makes no others, and `strobes_ticks` that no number of
ticks does.

Keyboard and mouse both prepare the first direction register. The keyboard makes all its
lines outputs; the mouse comes second, reads what it finds and takes the fire lines out of
it. So the fire lines are inputs in the end, whoever is in use (`prepared_setUp`). The strobe
does not touch what is prepared, so it lasts (`level_ticked`, `Prepared.strobed`).
-/

namespace InputBridge

/-! ## The strobe -/

/-- Is this write a strobe: a word that selects one column of the keyboard, or none? -/
def RegisterMap.Strobes (map : RegisterMap) (address : Address) (width : Width) (value : UInt16) :
    Prop :=
  address = map.columnSelect ∧ width = .word ∧
    (value = 0xFFFF ∨ ∃ column < columnCount, value = selectWord column)

namespace Devices

variable {chipset : Chipset} {devices : Devices}

/-- What a tick may write: the strobe, if there is a keyboard. -/
def strobing {ω : Type} (chipset : Chipset) (devices : Devices) : Scope ω where
  writes address width value :=
    devices.keyboard.isSome = true ∧ (RegisterMap.forChipset chipset).Strobes address width value

theorem Wired.keyboard_strobes (h : devices.Wired chipset) :
    (scanDevice .keyboard Keyboard.poll devices.keyboard).Within
      ((devices.strobing chipset).speaking .keyboard) fun result =>
        ∀ keyboard ∈ result.1, True := by
  refine scanDevice_within fun keyboard hin => ?_
  obtain ⟨held, rfl⟩ := h.keyboard keyboard hin
  refine (Keyboard.poll_within _).imp (fun moment hmoment => ?_) fun _ _ => trivial
  cases moment with
  | read => exact trivial
  | write => exact ⟨Option.isSome_of_mem hin, hmoment⟩
  | remark => exact trivial

/-- A tick writes nothing but the strobe. -/
theorem Wired.scan_strobes (h : devices.Wired chipset) :
    devices.scan.Within (devices.strobing chipset) fun _ => True := by
  have hpointers := h.pointersHeed
  have hkeyboard : (scanDevice .keyboard Keyboard.poll devices.keyboard).Within
      (devices.strobing chipset) fun _ => True := by
    refine h.keyboard_strobes.imp (fun moment hmoment => ?_) fun _ _ => trivial
    cases moment with
    | read => exact trivial
    | write => exact hmoment
    | remark => exact trivial
  refine Program.within_bind hkeyboard fun keyboard _ => ?_
  -- The pointers only read.
  refine Program.within_bind ((scanDevice_alike fun mouse hin =>
    Mouse.poll_alike (hpointers.mouse mouse hin)).within_writing _) fun mouse _ => ?_
  refine Program.within_bind ((scanDevice_alike fun pen hin =>
    Lightpen.poll_alike (hpointers.lightpen pen hin)).within_writing _) fun pen _ => ?_
  exact Program.within_pure trivial

end Devices

namespace Session

variable {β σ : Type} [RegisterBus β] [EventSink σ] {chipset : Chipset}

/-- What happens in so many ticks, first to last: every access and everything that is said. -/
def tickHistory : Nat → Session β σ → List (Moment Signal)
  | 0, _ => []
  | count + 1, session =>
    session.devices.scan.history session.bus ++ tickHistory count session.tick.value

/-- A tick does not change what the next one may write. -/
theorem strobing_tick (session : Session β σ) :
    (session.tick.value.devices.strobing chipset : Scope Signal) =
      session.devices.strobing chipset := by
  have hkeyboard : session.tick.value.devices.keyboard.isSome = session.devices.keyboard.isSome :=
    congrArg PerDevice.keyboard session.inUse_tick
  unfold Devices.strobing
  rw [hkeyboard]

/-- However many ticks there are, they write nothing but the strobe. -/
theorem strobes_ticks : ∀ (count : Nat) {session : Session β σ}, session.devices.Wired chipset →
    ∀ moment ∈ session.tickHistory count, (session.devices.strobing chipset).Allows moment
  | 0, _, _ => fun _ hin => nomatch hin
  | count + 1, session, h => by
    intro moment hin
    rcases List.mem_append.mp hin with hnow | hlater
    · exact h.scan_strobes.history_run session.bus moment hnow
    · have hallowed := strobes_ticks count (wired_tick h) moment hlater
      rw [strobing_tick] at hallowed
      exact hallowed

omit [RegisterBus β] in
/-- Ticks leave every register alone but the one that selects the column. -/
theorem level_ticked {address : Address}
    (hne : address ≠ (RegisterMap.forChipset chipset).columnSelect) :
    ∀ (count : Nat) {session : Session MemoryBus σ}, session.devices.Wired chipset →
      (session.ticked count).bus.level address = session.bus.level address
  | 0, _, _ => rfl
  | count + 1, session, h => by
    have hnow : session.tick.value.bus.level address = session.bus.level address :=
      h.scan_strobes.level_run (fun _ _ hwrite => hne hwrite.2.1) session.bus
    exact (level_ticked hne count (wired_tick h)).trans hnow

end Session

/-! ## The fire lines -/

/-- The fire lines of some ports. -/
def Port.fireLines (map : RegisterMap) (ports : List Port) : UInt8 :=
  ports.foldl (fun bits port => bits ||| (port.lines map).fireBit) 0

/-- The ports that the mouse is polled on. -/
def Config.enabledPorts (config : Config) : List Port :=
  if config.mouse = true then config.mousePorts else []

namespace Port

variable {map : RegisterMap} {ports : List Port}

theorem getLsbD_foldl_fireBit (map : RegisterMap) (index : Nat) : ∀ (ports : List Port)
    (bits : UInt8),
    (ports.foldl (fun bits port => bits ||| (port.lines map).fireBit) bits).toBitVec.getLsbD index =
      (bits.toBitVec.getLsbD index ||
        ports.any fun port => (port.lines map).fireBit.toBitVec.getLsbD index)
  | [], bits => by simp
  | port :: rest, bits => by
    rw [List.foldl_cons, getLsbD_foldl_fireBit map index rest, List.any_cons, UInt8.toBitVec_or,
      BitVec.getLsbD_or, Bool.or_assoc]

theorem getLsbD_fireLines (map : RegisterMap) (ports : List Port) (index : Nat) :
    (fireLines map ports).toBitVec.getLsbD index =
      ports.any fun port => (port.lines map).fireBit.toBitVec.getLsbD index := by
  unfold fireLines
  rw [getLsbD_foldl_fireBit]
  simp

/-- Without the fire lines of some ports, the fire line of each of them is low. -/
theorem and_not_fireLines_and_fireBit (direction : UInt8) {port : Port} (hin : port ∈ ports) :
    direction &&& ~~~fireLines map ports &&& (port.lines map).fireBit = 0 := by
  apply UInt8.eq_of_toBitVec_eq
  apply BitVec.eq_of_getLsbD_eq
  intro index hindex
  simp only [UInt8.toBitVec_and, UInt8.toBitVec_not, BitVec.getLsbD_and, BitVec.getLsbD_not,
    getLsbD_fireLines, hindex, decide_true, Bool.true_and]
  cases hbit : (port.lines map).fireBit.toBitVec.getLsbD index with
  | false => simp
  | true =>
    have hany : (ports.any fun port => (port.lines map).fireBit.toBitVec.getLsbD index) = true :=
      List.any_eq_true.mpr ⟨port, hin, hbit⟩
    simp [hany]

/-- Taking out the fire lines of some ports does not show in other bits. -/
theorem and_not_fireLines_and {bits : UInt8} (direction : UInt8)
    (hout : ∀ port ∈ ports, bits &&& (port.lines map).fireBit = 0) :
    direction &&& ~~~fireLines map ports &&& bits = direction &&& bits := by
  apply UInt8.eq_of_toBitVec_eq
  apply BitVec.eq_of_getLsbD_eq
  intro index hindex
  simp only [UInt8.toBitVec_and, UInt8.toBitVec_not, BitVec.getLsbD_and, BitVec.getLsbD_not,
    getLsbD_fireLines, hindex, decide_true, Bool.true_and]
  cases hbit : bits.toBitVec.getLsbD index with
  | false => simp
  | true =>
    have hnone :
        (ports.any fun port => (port.lines map).fireBit.toBitVec.getLsbD index) = false := by
      rw [List.any_eq_false]
      intro port hin hfire
      have hzero := congrArg (fun byte : UInt8 => byte.toBitVec.getLsbD index) (hout port hin)
      simp [hbit, hfire] at hzero
    simp [hnone]

end Port

/-! ## What a start prepares -/

namespace Devices

/-- The fire lines of the ports in use. -/
def fireLines (devices : Devices) : UInt8 := (devices.mouse.map Mouse.fireBits).getD 0

/-- The bus as keyboard and mouse leave it when the devices are set up. -/
def mouseLeaves {β : Type} [RegisterBus β] (devices : Devices) (bus : β) : β :=
  ((keepIfSetUp .mouse Mouse.setUp devices.mouse).run (devices.keyboardLeaves bus)).bus

/-- The pen comes last. -/
theorem setUp_bus {β : Type} [RegisterBus β] (devices : Devices) (bus : β) :
    (devices.setUp.run bus).bus =
      (devices.lightpen.map fun pen => (pen.setUp.run (devices.mouseLeaves bus)).bus).getD
        (devices.mouseLeaves bus) := by
  unfold setUp mouseLeaves keyboardLeaves
  rw [Program.run_bind, Program.run_bind]
  cases devices.lightpen with
  | none => rfl
  | some pen => rw [Program.run_bind]; rfl

namespace Wired

variable {chipset : Chipset} {devices : Devices} {bus : MemoryBus}

/-- The keyboard makes the strobe port outputs and the row port inputs. -/
theorem level_keyboardLeaves (h : devices.Wired chipset)
    (hddra : bus.Quiet (RegisterMap.forChipset chipset).ciaaDdra)
    (hddrb : bus.Quiet (RegisterMap.forChipset chipset).ciaaDdrb) (address : Address) :
    (devices.keyboardLeaves bus).level address =
      if devices.keyboard.isSome = true then
        if address = (RegisterMap.forChipset chipset).ciaaDdrb then 0
        else if address = (RegisterMap.forChipset chipset).ciaaDdra then 0xFF
        else bus.level address
      else bus.level address := by
  unfold keyboardLeaves
  rw [(run_keepIfSetUp ..).2]
  cases hkeyboard : devices.keyboard with
  | none => rfl
  | some keyboard =>
    obtain ⟨held, rfl⟩ := h.keyboard keyboard hkeyboard
    dsimp only [Option.map_some, Option.getD_some, Option.isSome_some]
    rw [Keyboard.run_setUp_clear _ hddra.toClear hddrb.toClear, if_pos rfl]
    dsimp only [Keyboard.new]
    split
    next heq =>
      rw [heq, hddrb.written.level_written]
      rfl
    next hne =>
      rw [MemoryBus.level_written, if_neg hne]
      split
      next heq =>
        rw [heq, hddra.level_written]
        rfl
      next hother => rw [MemoryBus.level_written, if_neg hother]

/-- The mouse takes its fire lines out of the first direction register. -/
theorem level_mouseLeaves (h : devices.Wired chipset)
    (hddra : bus.Quiet (RegisterMap.forChipset chipset).ciaaDdra) :
    let ddra := (RegisterMap.forChipset chipset).ciaaDdra
    let found := devices.keyboardLeaves bus
    ((devices.mouseLeaves bus).level ddra).toUInt8 =
        (found.level ddra).toUInt8 &&& ~~~devices.fireLines ∧
      ∀ address, address ≠ ddra →
        (devices.mouseLeaves bus).level address = found.level address := by
  intro ddra found
  have hfound : found.Quiet ddra := hddra.run _
  unfold mouseLeaves fireLines
  rw [(run_keepIfSetUp ..).2]
  cases hmouse : devices.mouse with
  | none =>
    have hall : (found.level ddra).toUInt8 &&& ~~~(0 : UInt8) = (found.level ddra).toUInt8 :=
      UInt8.and_neg_one
    exact ⟨hall.symm, fun _ _ => rfl⟩
  | some mouse =>
    have hmap : mouse.map.ciaaDdra = ddra := congrArg RegisterMap.ciaaDdra (h.mouse mouse hmouse)
    dsimp only [Option.map_some, Option.getD_some]
    rw [mouse.run_setUp_clear (hmap ▸ hfound.toClear), hmap]
    dsimp only
    refine ⟨?_, fun address hne => ?_⟩
    · rw [hfound.counted.level_written, MemoryBus.toUInt8_masked, UInt8.toUInt8_toUInt16,
        hfound.steady_eq]
    · rw [MemoryBus.level_written, if_neg hne]
      rfl

/-- The pen adds the enable bit of its latch. -/
theorem level_setUp (h : devices.Wired chipset)
    (hbplcon0 : bus.Quiet (RegisterMap.forChipset chipset).bplcon0) :
    let bplcon0 := (RegisterMap.forChipset chipset).bplcon0
    let found := devices.mouseLeaves bus
    ((devices.setUp.run bus).bus.level bplcon0 =
        if devices.lightpen.isSome = true then found.level bplcon0 ||| latchEnableBit
        else found.level bplcon0) ∧
      ∀ address, address ≠ bplcon0 →
        (devices.setUp.run bus).bus.level address = found.level address := by
  intro bplcon0 found
  have hkeyboard : (devices.keyboardLeaves bus).Quiet bplcon0 := hbplcon0.run _
  have hfound : found.Quiet bplcon0 := hkeyboard.run _
  rw [setUp_bus]
  cases hpen : devices.lightpen with
  | none => exact ⟨rfl, fun _ _ => rfl⟩
  | some pen =>
    obtain ⟨state, rfl⟩ := h.lightpen pen hpen
    dsimp only [Option.map_some, Option.getD_some, Option.isSome_some]
    rw [Lightpen.run_setUp_clear _ hfound.toClear, if_pos rfl]
    dsimp only [Lightpen.new]
    refine ⟨?_, fun address hne => ?_⟩
    · rw [hfound.counted.level_written, Width.and_mask_word, hfound.steady_eq]
    · rw [MemoryBus.level_written, if_neg hne]
      rfl

end Wired

end Devices

/-- What is prepared in the registers of a machine, told by what they held before: the fire
lines of the ports in use are inputs; with a keyboard the other lines of the strobe port are
outputs and the lines of the row port are inputs; with a pen its latch is enabled. Nothing
else is changed, except that columns are selected. -/
structure Prepared (map : RegisterMap) (config : Config) (before after : Address → UInt16) :
    Prop where
  fire : ∀ port ∈ config.enabledPorts,
    (after map.ciaaDdra).toUInt8 &&& (port.lines map).fireBit = 0
  strobePort : ∀ bits : UInt8,
    (∀ port ∈ config.enabledPorts, bits &&& (port.lines map).fireBit = 0) →
      (after map.ciaaDdra).toUInt8 &&& bits =
        if config.keyboard = true then bits else (before map.ciaaDdra).toUInt8 &&& bits
  rowPort : after map.ciaaDdrb = if config.keyboard = true then 0 else before map.ciaaDdrb
  latch : after map.bplcon0 =
    if config.lightpen = true then before map.bplcon0 ||| latchEnableBit else before map.bplcon0
  others : ∀ address, address ∉ map.setUpRegisters → address ≠ map.columnSelect →
    after address = before address

theorem RegisterMap.mem_setUpRegisters (map : RegisterMap) :
    map.ciaaDdra ∈ map.setUpRegisters ∧ map.ciaaDdrb ∈ map.setUpRegisters ∧
      map.bplcon0 ∈ map.setUpRegisters := by
  simp [setUpRegisters]

theorem RegisterMap.setUpRegisters_nodup (chipset : Chipset) :
    (forChipset chipset).setUpRegisters.Nodup := by
  cases chipset <;> decide

section Prepare

variable {config : Config} {devices : Devices} {bus : MemoryBus}

/-- The fire lines of the mouse in use are those of the enabled ports. -/
theorem Devices.fireLines_eq (hwired : devices.Wired config.chipset)
    (hasked : devices.MouseAsked config)
    (hinUse : devices.inUse = (Devices.ofConfig config).inUse) :
    devices.fireLines = Port.fireLines (.forChipset config.chipset) config.enabledPorts := by
  have hmouse : devices.mouse.isSome = (config.mouse && !config.mousePorts.isEmpty) :=
    congrArg PerDevice.mouse (hinUse.trans (Devices.inUse_ofConfig config))
  unfold fireLines Config.enabledPorts
  cases hstate : devices.mouse with
  | none =>
    rw [hstate] at hmouse
    -- No mouse is in use, since it is disabled or has no port.
    cases hconfig : config.mouse with
    | false => rfl
    | true =>
      have hports : config.mousePorts = [] := by simpa [hconfig] using hmouse
      rw [hports]
      rfl
  | some mouse =>
    have hconfig : config.mouse = true := by
      rw [hstate] at hmouse
      exact (Bool.and_eq_true_iff.mp hmouse.symm).1
    rw [if_pos hconfig, ← (hasked mouse hstate).ports_eq, ← hwired.mouse mouse hstate]
    rfl

theorem prepared_setUp (hwired : devices.Wired config.chipset)
    (hasked : devices.MouseAsked config)
    (hinUse : devices.inUse = (Devices.ofConfig config).inUse)
    (hquiet : ∀ address ∈ (RegisterMap.forChipset config.chipset).setUpRegisters,
      bus.Quiet address) :
    Prepared (.forChipset config.chipset) config bus.level (devices.setUp.run bus).bus.level := by
  have hused := hinUse.trans (Devices.inUse_ofConfig config)
  have hkeyboard : devices.keyboard.isSome = config.keyboard := congrArg PerDevice.keyboard hused
  have hlightpen : devices.lightpen.isSome = config.lightpen := congrArg PerDevice.lightpen hused
  have hlines := Devices.fireLines_eq hwired hasked hinUse
  have hnodup := RegisterMap.setUpRegisters_nodup config.chipset
  have hkeys := hwired.level_keyboardLeaves (hquiet _ (RegisterMap.mem_setUpRegisters _).1)
    (hquiet _ (RegisterMap.mem_setUpRegisters _).2.1)
  obtain ⟨hfire, hmouse⟩ :=
    hwired.level_mouseLeaves (hquiet _ (RegisterMap.mem_setUpRegisters _).1)
  obtain ⟨hlatch, hpen⟩ := hwired.level_setUp (hquiet _ (RegisterMap.mem_setUpRegisters _).2.2)
  rw [hkeyboard] at hkeys
  rw [hlines] at hfire
  rw [hlightpen] at hlatch
  generalize RegisterMap.forChipset config.chipset = map at hnodup hkeys hfire hmouse hlatch hpen ⊢
  obtain ⟨⟨hrows, hcontrol⟩, hrows_control⟩ : (map.ciaaDdra ≠ map.ciaaDdrb ∧
      map.ciaaDdra ≠ map.bplcon0) ∧ map.ciaaDdrb ≠ map.bplcon0 := by
    simpa [RegisterMap.setUpRegisters] using hnodup
  -- The mouse takes its lines out of what the keyboard leaves.
  have hdirection : ((devices.setUp.run bus).bus.level map.ciaaDdra).toUInt8 =
      (if config.keyboard = true then 0xFF else (bus.level map.ciaaDdra).toUInt8) &&&
        ~~~Port.fireLines map config.enabledPorts := by
    rw [hpen _ hcontrol, hfire, hkeys, if_neg hrows, if_pos rfl]
    split <;> rfl
  constructor
  case fire =>
    intro port hport
    rw [hdirection]
    exact Port.and_not_fireLines_and_fireBit _ hport
  case strobePort =>
    intro bits hbits
    rw [hdirection, Port.and_not_fireLines_and _ hbits]
    split
    next => exact UInt8.neg_one_and
    next => rfl
  case rowPort =>
    rw [hpen _ hrows_control, hmouse _ hrows.symm, hkeys, if_pos rfl]
  case latch =>
    rw [hlatch, hmouse _ hcontrol.symm, hkeys, if_neg hrows_control.symm, if_neg hcontrol.symm,
      ite_self]
  case others =>
    intro address hout _
    simp only [RegisterMap.setUpRegisters, List.mem_cons, List.not_mem_nil, or_false,
      not_or] at hout
    obtain ⟨hnotA, hnotB, hnotControl⟩ := hout
    rw [hpen _ hnotControl, hmouse _ hnotA, hkeys, if_neg hnotB, if_neg hnotA, ite_self]

end Prepare

/-- What is prepared lasts as long as only columns are selected. -/
theorem Prepared.strobed {chipset : Chipset} {config : Config}
    {before after later : Address → UInt16} (h : Prepared (.forChipset chipset) config before after)
    (hlater : ∀ address, address ≠ (RegisterMap.forChipset chipset).columnSelect →
      later address = after address) : Prepared (.forChipset chipset) config before later := by
  have hsame : ∀ address ∈ (RegisterMap.forChipset chipset).setUpRegisters,
      later address = after address := by
    intro address hin
    refine hlater address fun heq => ?_
    exact RegisterMap.sensed_apart chipset _ (by simp [RegisterMap.sensed]) (heq ▸ hin)
  have hddra := hsame _ (RegisterMap.mem_setUpRegisters _).1
  constructor
  case fire => exact hddra ▸ h.fire
  case strobePort => exact hddra ▸ h.strobePort
  case rowPort => exact (hsame _ (RegisterMap.mem_setUpRegisters _).2.1).trans h.rowPort
  case latch => exact (hsame _ (RegisterMap.mem_setUpRegisters _).2.2).trans h.latch
  case others =>
    intro address hout hne
    exact (hlater address hne).trans (h.others address hout hne)

namespace Session

variable {σ : Type} {config : Config} {session : Session MemoryBus σ}

/-- A first start that succeeds prepares the registers. -/
theorem prepared_start (hfresh : session.ready = false)
    (hwired : session.devices.Wired config.chipset) (hasked : session.devices.MouseAsked config)
    (hinUse : session.devices.inUse = (Devices.ofConfig config).inUse)
    (hquiet : ∀ address ∈ (RegisterMap.forChipset config.chipset).setUpRegisters,
      session.bus.Quiet address) (hok : session.start.value.1 = .ok ()) :
    Prepared (.forChipset config.chipset) config session.bus.level
      session.start.value.2.bus.level := by
  have hstarted := session.started
  generalize session.start.value = result at hstarted hok ⊢
  cases hstarted with
  | again hready => exact nomatch hfresh.symm.trans hready
  | refused => exact nomatch hok
  | down => exact nomatch hok
  | none => exact nomatch hok
  | up bus _ _ hconnected _ =>
    -- A register file is not changed by bringing it up.
    have hbus : session.bus = bus :=
      session.bus.connect_eq.symm.trans (congrArg Prod.snd hconnected)
    subst hbus
    exact prepared_setUp hwired hasked hinUse hquiet

/-- **A tick writes nothing but the strobe.** Whatever happened to a session before, on any
bus: every write that is made in any number of ticks, whether it succeeds or not, is a word
to the register that selects the columns, and it selects one column or none. Without a
keyboard in use there is no write at all.

So on a register file in which nothing interferes with the registers that are set up, what
the first successful start prepares lasts through any number of ticks. -/
theorem ticks_only_strobe {σ : Type} [EventSink σ] (sink : σ) (config : Config) :
    let map := RegisterMap.forChipset config.chipset
    (∀ {β : Type} [RegisterBus β] (bus : β) (run : List (Step β)) (count : Nat),
      let session := ((new bus sink config).steps run).2
      ∀ address width value answer,
        .write address width value answer ∈ session.tickHistory count →
          session.devices.inUse.keyboard = true ∧ map.Strobes address width value) ∧
      ∀ (bus : MemoryBus) (run : List (Step MemoryBus)) (count : Nat),
        let answers := ((new bus sink config).steps run).1
        let session := ((new bus sink config).steps run).2
        (∀ answer ∈ answers, ¬GotThrough answer) → session.start.value.1 = .ok () →
          (∀ address ∈ map.setUpRegisters, session.bus.Quiet address) →
          Prepared map config session.bus.level
            (session.start.value.2.ticked count).bus.level := by
  intro map
  refine ⟨?writes, ?prepared⟩
  case writes =>
    intro β _ bus run count session address width value answer hin
    have hwired : session.devices.Wired config.chipset :=
      wired_steps run (wired_new bus sink config)
    exact strobes_ticks count hwired _ hin
  case prepared =>
    intro bus run count answers session hearlier hok hquiet
    have hwired : session.devices.Wired config.chipset :=
      wired_steps run (wired_new bus sink config)
    have hasked : session.devices.MouseAsked config := makeup_steps run (.ofConfig config)
    have hup : BringUp config answers session := bringUp_steps run (bringUp_new bus sink config)
    obtain ⟨hfresh, hinUse⟩ := hup.fresh hearlier
    refine (prepared_start hfresh hwired hasked hinUse hquiet hok).strobed fun address hne => ?_
    exact level_ticked hne count (wired_start hwired)

/-- Keyboard, mouse and pen on registers that hold something, with a strobe that fails in the
first tick: the fire line of port 0 is the only input among the strobe lines, and the pen adds
its bit to what the display had there. -/
theorem ticks_only_strobe_after_failing :
    let map := RegisterMap.forChipset .ocs
    let bus := ((({} : MemoryBus).setLevel map.ciaaDdra 0x005A).setLevel map.bplcon0
      0x1200).failWrites map.columnSelect (.next 1)
    let session := (new bus ({} : RecordingSink) {}).start.value.2
    Prepared map {} bus.level (session.ticked 2).bus.level ∧
      (session.ticked 2).bus.level map.ciaaDdra = 0x00BF ∧
      (session.ticked 2).bus.level map.bplcon0 = 0x1208 ∧
      (session.ticked 2).stats.failures.keyboard = 1 := by
  intro map bus session
  have hquiet : ∀ address ∈ map.setUpRegisters, bus.Quiet address := by
    intro address hin
    have hne : address ≠ map.columnSelect := by
      rintro rfl
      revert hin
      decide
    exact ⟨⟨rfl, congrArg (Option.getD · _) (Table.get?_put_ne _ _ hne), rfl⟩, rfl, rfl⟩
  have hprepared := (ticks_only_strobe ({} : RecordingSink) {}).2 bus [] 2
    (fun _ hin => nomatch hin) (by decide) hquiet
  exact ⟨hprepared, by decide, by decide, by decide⟩

end Session

end InputBridge
