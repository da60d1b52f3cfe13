import InputBridge.IdleMachine
import InputBridge.Proofs.Device.CalmPolls

/-!
# Devices of a plain machine

A plain machine is a calm register file on which nothing is strobed but the rows of the
keyboard. Setting up writes to registers that no device reads: the directions of the adapter
ports and the bitplane control. So it does not matter which devices were set up, and when.

`Program.Yields` says what a program does on every register file that was only set up from
a given one: how it ends, what it remarks, and what it makes of the registers. It composes
(`Yields.bind`), and each device has its lemmas.
-/

namespace InputBridge

open MemoryBus (SameOutside)

/-- The registers that setting up writes. -/
def RegisterMap.setUpRegisters (map : RegisterMap) : List Address :=
  [map.ciaaDdra, map.ciaaDdrb, map.bplcon0]

/-- The registers that the devices sense, and the one that strobes them. -/
def RegisterMap.sensed (map : RegisterMap) : List Address :=
  [map.columnSelect, map.ciaaPra, map.rowSense, map.joy0dat, map.joy1dat, map.potgor, map.vposr,
    map.vhposr]

theorem RegisterMap.sensed_apart (chipset : Chipset) :
    ∀ address ∈ (forChipset chipset).sensed, address ∉ (forChipset chipset).setUpRegisters := by
  intro address hin
  simp only [sensed, List.mem_cons, List.not_mem_nil, or_false] at hin
  rcases hin with rfl | rfl | rfl | rfl | rfl | rfl | rfl | rfl <;> cases chipset <;> decide

namespace MemoryBus

/-- Nothing is strobed but the rows of the keyboard, by the column that is selected. -/
def OnlyRowsStrobed (map : RegisterMap) (bus : MemoryBus) : Prop :=
  ∀ address strobed, bus.strobes.get? address = some strobed →
    address = map.rowSense ∧ strobed.select = map.columnSelect

/-- A machine without faults and scripts, on which at most the matrix is strobed. -/
structure Plain (map : RegisterMap) (bus : MemoryBus) : Prop where
  calm : bus.Calm
  connected : bus.outage = none
  strobes : bus.OnlyRowsStrobed map

theorem Plain.connect_eq {map : RegisterMap} {bus : MemoryBus} (h : bus.Plain map) :
    RegisterBus.connect bus = (.ok (), bus) := by
  show bus.connect = _
  unfold MemoryBus.connect
  rw [h.connected]

theorem Plain.setLevel {map : RegisterMap} {bus : MemoryBus} (h : bus.Plain map)
    (address : Address) (value : UInt16) : (bus.setLevel address value).Plain map :=
  ⟨⟨h.calm.reads, h.calm.writes, h.calm.scripts⟩, h.connected, h.strobes⟩

theorem Plain.setStrobed {map : RegisterMap} {bus : MemoryBus} (h : bus.Plain map)
    (address : Address) (selector value : UInt16) :
    (bus.setStrobed address selector value).Plain map := by
  unfold MemoryBus.setStrobed
  split
  next => exact h
  next strobed hstrobed =>
    refine ⟨⟨h.calm.reads, h.calm.writes, h.calm.scripts⟩, h.connected, fun other found hget => ?_⟩
    have hput := (Table.get?_put bus.strobes address other _).symm.trans hget
    split at hput
    next heq =>
      rw [heq, ← Option.some.inj hput]
      exact h.strobes address strobed hstrobed
    next => exact h.strobes other found hput

/-- A machine with nobody at it is plain. -/
theorem plain_idleMachine (map : RegisterMap) : (idleMachine map).Plain map := by
  refine ⟨⟨fun _ => rfl, fun _ => rfl, fun _ => rfl⟩, rfl, fun address strobed hget => ?_⟩
  have hput := (Table.get?_put .empty map.rowSense address _).symm.trans hget
  split at hput
  next heq =>
    rw [← Option.some.inj hput]
    exact ⟨heq, rfl⟩
  next => cases hput

/-- A calm register file that is in the state of `bus`, but for what setting up changes. -/
structure SetUpFrom (map : RegisterMap) (bus running : MemoryBus) : Prop where
  calm : running.Calm
  same : SameOutside map.setUpRegisters running bus

section SetUpFrom

variable {map : RegisterMap} {bus running after : MemoryBus} {address : Address}

theorem SetUpFrom.left (h : SetUpFrom map bus running) (hcalm : after.Calm)
    (hsame : SameOutside [] after running) : SetUpFrom map bus after :=
  ⟨hcalm, (hsame.mono fun _ hin => absurd hin List.not_mem_nil).trans h.same⟩

theorem SetUpFrom.written (h : SetUpFrom map bus running) (hin : address ∈ map.setUpRegisters)
    (width : Width) (value : UInt16) : SetUpFrom map bus (running.written address width value) :=
  ⟨h.calm.written, h.same.written_other hin⟩

theorem SetUpFrom.counted (h : SetUpFrom map bus running) : SetUpFrom map bus running.counted :=
  ⟨h.calm.counted, h.same.counted⟩

/-- What was set up is not seen in what the devices sense, strobed or not. -/
theorem SetUpFrom.steady {chipset : Chipset} (h : SetUpFrom (.forChipset chipset) bus running)
    (hstrobes : bus.OnlyRowsStrobed (.forChipset chipset))
    (hsensed : address ∈ (RegisterMap.forChipset chipset).sensed) :
    running.steady address = bus.steady address := by
  refine h.same.steady (RegisterMap.sensed_apart chipset address hsensed) fun strobed hget => ?_
  rw [h.same.strobes] at hget
  rw [(hstrobes address strobed hget).2]
  exact RegisterMap.sensed_apart chipset _ (List.mem_cons_self ..)

end SetUpFrom

end MemoryBus

/-! ## What a program does on a plain machine -/

/-- On every register file that was only set up from `bus`, the program ends with `value`
and makes these remarks, and leaves one that was only set up from `left`. -/
def Program.Yields {ω α : Type} (map : RegisterMap) (bus : MemoryBus) (program : Program ω α)
    (value : α) (remarks : List ω) (left : MemoryBus) : Prop :=
  ∀ running, MemoryBus.SetUpFrom map bus running → ∃ after,
    program.run running = ⟨value, after, remarks⟩ ∧ MemoryBus.SetUpFrom map left after

namespace Program

variable {ω ω' α γ : Type} {map : RegisterMap} {bus left last : MemoryBus}

theorem yields_pure (value : α) : Yields map bus (pure value : Program ω α) value [] bus :=
  fun running h => ⟨running, rfl, h⟩

theorem yields_remark (out : ω) : Yields map bus (remark out) () [out] bus :=
  fun running h => ⟨running, rfl, h⟩

theorem yields_remarks (outs : List ω) : Yields map bus (remarks outs) () outs bus :=
  fun running h => ⟨running, run_remarks outs running, h⟩

theorem Yields.bind {first : Program ω α} {next : α → Program ω γ} {value : α} {result : γ}
    {outs later : List ω} (hfirst : Yields map bus first value outs left)
    (hnext : Yields map left (next value) result later last) :
    Yields map bus (first >>= next) result (outs ++ later) last := by
  intro running h
  obtain ⟨middle, hrun, hmiddle⟩ := hfirst running h
  obtain ⟨after, hlater, hafter⟩ := hnext middle hmiddle
  refine ⟨after, ?_, hafter⟩
  rw [run_bind, hrun, hlater]

theorem Yields.mapRemarks {program : Program ω α} {value : α} {outs : List ω}
    (h : Yields map bus program value outs left) (f : ω → ω') :
    Yields map bus (program.mapRemarks f) value (outs.map f) left := by
  intro running hrunning
  obtain ⟨after, hrun, hafter⟩ := h running hrunning
  refine ⟨after, ?_, hafter⟩
  rw [run_mapRemarks, hrun]

/-- An attempt that gets through goes on with what it got. -/
theorem Yields.attempt_bind {first : Attempt ω α} {next : α → Attempt ω γ} {value : α}
    {result : Except BusError γ} {outs later : List ω}
    (hfirst : Yields map bus first.run (.ok value) outs left)
    (hnext : Yields map left (next value).run result later last) :
    Yields map bus (first >>= next).run result (outs ++ later) last := by
  rw [ExceptT.run_bind]
  exact hfirst.bind hnext

end Program

/-! ## The devices -/

section Devices

variable {ω : Type} {chipset : Chipset} {bus : MemoryBus}

namespace MemoryBus.SetUpFrom

variable {running : MemoryBus} (h : SetUpFrom (.forChipset chipset) bus running)
  (hstrobes : bus.OnlyRowsStrobed (.forChipset chipset))

include h hstrobes

/-- What was set up does not change what a scan takes. -/
theorem matrix :
    running.matrix (.new (.forChipset chipset) .standard) =
      bus.matrix (.new (.forChipset chipset) .standard) := by
  unfold MemoryBus.matrix fillIn
  congr 1
  funext snapshot column
  have hselected : SetUpFrom (.forChipset chipset)
      (bus.written (RegisterMap.forChipset chipset).columnSelect .word (selectWord column))
      (running.written (RegisterMap.forChipset chipset).columnSelect .word (selectWord column)) :=
    ⟨h.calm.written, h.same.written ..⟩
  have hsensed : (RegisterMap.forChipset chipset).rowSense ∈
      (RegisterMap.forChipset chipset).sensed := by simp [RegisterMap.sensed]
  have hrows : running.rowsOf (.new (.forChipset chipset) .standard) column =
      bus.rowsOf (.new (.forChipset chipset) .standard) column :=
    congrArg UInt16.toUInt8 (hselected.steady hstrobes hsensed)
  rw [hrows]

theorem buttonsAt (port : Port) :
    running.buttonsAt (port.lines (.forChipset chipset)) =
      bus.buttonsAt (port.lines (.forChipset chipset)) := by
  refine buttonsAt_congr (h.steady hstrobes ?_) (h.steady hstrobes ?_)
  · cases port <;> simp [Port.lines, RegisterMap.sensed]
  · cases port <;> simp [Port.lines, RegisterMap.sensed]

theorem seenBy :
    running.seenBy (.new (.forChipset chipset)) = bus.seenBy (.new (.forChipset chipset)) := by
  refine seenBy_congr fun address hin => h.steady hstrobes ?_
  simp only [Lightpen.new, List.mem_cons, List.not_mem_nil, or_false] at hin
  simp only [RegisterMap.sensed, List.mem_cons, List.not_mem_nil, or_false]
  tauto

end MemoryBus.SetUpFrom

open Program (Yields)

theorem Keyboard.yields_setUp :
    Yields (.forChipset chipset) bus
      ((Keyboard.new (.forChipset chipset) .standard).setUp : Attempt ω Unit).run (.ok ()) [] bus :=
  fun _ h => ⟨_, Keyboard.run_setUp_clear _ (h.calm.clear _) (h.calm.clear _),
    (h.written (by simp [RegisterMap.setUpRegisters, Keyboard.new]) ..).written
      (by simp [RegisterMap.setUpRegisters, Keyboard.new]) ..⟩

theorem Keyboard.yields_scan (hstrobes : bus.OnlyRowsStrobed (.forChipset chipset)) :
    let keyboard := Keyboard.new (.forChipset chipset) .standard
    Yields (.forChipset chipset) bus (keyboard.scan : Attempt ω Snapshot).run
      (.ok (bus.matrix keyboard)) [] (bus.deselected keyboard) := by
  intro keyboard running h
  obtain ⟨after, hrun, hcalm, hsame⟩ := keyboard.run_scan (ω := ω) h.calm
  have hdeselected : MemoryBus.SetUpFrom (.forChipset chipset) (bus.deselected keyboard)
      (running.deselected keyboard) := ⟨h.calm.written, h.same.written ..⟩
  refine ⟨after, ?_, hdeselected.left hcalm hsame⟩
  rw [hrun, h.matrix hstrobes]

theorem Mouse.yields_setUp {mouse : Mouse} (hmap : mouse.map = .forChipset chipset) :
    Yields (.forChipset chipset) bus (mouse.setUp : Attempt ω Unit).run (.ok ()) [] bus := by
  intro running h
  refine ⟨_, mouse.run_setUp_clear (h.calm.clear _), h.counted.written ?_ ..⟩
  rw [hmap]
  simp [RegisterMap.setUpRegisters]

theorem Mouse.yields_readButtons (hstrobes : bus.OnlyRowsStrobed (.forChipset chipset))
    {mouse : Mouse} (hmap : mouse.map = .forChipset chipset) (port : Port) :
    Yields (.forChipset chipset) bus (mouse.readButtons port : Attempt ω UInt8).run
      (.ok (bus.buttonsAt (port.lines (.forChipset chipset)))) [] bus := by
  intro running h
  refine ⟨_, ?_, h.counted.counted⟩
  rw [mouse.run_readButtons h.calm port, hmap, h.buttonsAt hstrobes]

theorem Lightpen.yields_setUp :
    Yields (.forChipset chipset) bus (Lightpen.new (.forChipset chipset)).setUp true
      [.latchEnabled] bus := by
  intro running h
  refine ⟨_, Lightpen.run_setUp_clear _ (h.calm.clear _), h.counted.written ?_ ..⟩
  simp [RegisterMap.setUpRegisters, Lightpen.new]

theorem Lightpen.yields_sense (hstrobes : bus.OnlyRowsStrobed (.forChipset chipset)) :
    let pen := Lightpen.new (.forChipset chipset)
    Yields (.forChipset chipset) bus (pen.sense : Attempt ω (Option PenSighting)).run
      (.ok (bus.seenBy pen)) [] bus := by
  intro pen running h
  obtain ⟨after, hrun, hcalm, hsame⟩ := pen.run_sense (ω := ω) h.calm
  refine ⟨after, ?_, h.left hcalm hsame⟩
  rw [hrun, h.seenBy hstrobes]

end Devices

end InputBridge
