import InputBridge.Device.Keyboard
import InputBridge.Device.Lightpen
import InputBridge.Device.Mouse
import InputBridge.Proofs.Bus.Calm

/-!
# What the devices sense on a calm register file

On a calm register file no access fails, so what a device senses is a function of the state
of the registers: `matrix` for the keyboard, `buttonsAt` for a port, `seenBy` for the pen.
`run_write_bind`, `Calm.run_readWord_bind` and their siblings are the rules by which an attempt is
executed there; one lemma for each sense executes it by them, whatever else may be remarked
(`run_scan`, `run_readButtons`, `run_sense`). What a device sets up needs only the registers
that it touches to be clear (`run_setUp_clear`).

The scan is the one that writes. Each column is read with its own select word in place, so
what was selected before does not matter, and afterwards no column is selected. That takes no
more than that nothing is pending where the scan reads and writes (`run_scan_unhindered`).
-/

namespace InputBridge

open MemoryBus (SameOutside SamePending)

namespace MemoryBus

/-! ## Executing an attempt -/

/-- The mask of a byte leaves exactly the bits that a byte keeps. -/
theorem toUInt8_masked (word : UInt16) : (word &&& Width.byte.mask).toUInt8 = word.toUInt8 := by
  rw [UInt16.toUInt8_and]
  exact UInt8.and_neg_one

section Rules

variable {bus : MemoryBus} {address : Address} {ω α : Type}

theorem run_write_bind (hfault : bus.writeFaultAt address = .next 0) (width : Width)
    (value : UInt16) (next : Unit → Attempt ω α) :
    (Attempt.write address width value >>= next).run.run bus =
      (next ()).run.run (bus.written address width value) :=
  Attempt.run_bind_of_write (write_eq_written hfault width value) next

theorem run_readByte_bind (hfault : bus.faultAt address = .next 0)
    (hscript : bus.scriptAt address = []) (next : UInt8 → Attempt ω α) :
    (Attempt.readByte address >>= next).run.run bus =
      (next (bus.steady address).toUInt8).run.run bus.counted := by
  rw [Attempt.run_bind_of_readByte (read_eq_steady hfault hscript .byte), toUInt8_masked]

theorem Clear.run_write (h : bus.Clear address) (width : Width) (value : UInt16) :
    (Attempt.write address width value : Attempt ω Unit).run.run bus =
      ⟨.ok (), bus.written address width value, []⟩ :=
  Attempt.run_of_write (h.write_eq width value)

theorem Clear.run_readWord_bind (h : bus.Clear address) (next : UInt16 → Attempt ω α) :
    (Attempt.readWord address >>= next).run.run bus =
      (next (bus.steady address)).run.run bus.counted :=
  Attempt.run_bind_of_readWord h.readWord_eq next

theorem Clear.run_readByte_bind (h : bus.Clear address) (next : UInt8 → Attempt ω α) :
    (Attempt.readByte address >>= next).run.run bus =
      (next (bus.steady address).toUInt8).run.run bus.counted :=
  MemoryBus.run_readByte_bind h.reads h.script next

theorem Calm.run_readWord_bind (h : bus.Calm) (address : Address) (next : UInt16 → Attempt ω α) :
    (Attempt.readWord address >>= next).run.run bus =
      (next (bus.steady address)).run.run bus.counted :=
  (h.clear address).run_readWord_bind next

theorem Calm.run_readByte_bind (h : bus.Calm) (address : Address) (next : UInt8 → Attempt ω α) :
    (Attempt.readByte address >>= next).run.run bus =
      (next (bus.steady address).toUInt8).run.run bus.counted :=
  (h.clear address).run_readByte_bind next

end Rules

/-! ## The senses -/

/-- The row lines that are read while a column is strobed. -/
def rowsOf (bus : MemoryBus) (keyboard : Keyboard) (column : Nat) : UInt8 :=
  ((bus.written keyboard.columnSelect .word (selectWord column)).steady keyboard.rowSense).toUInt8

/-- A snapshot with the row lines of some columns filled in. -/
def fillIn (bus : MemoryBus) (keyboard : Keyboard) (snapshot : Snapshot) (columns : List Nat) :
    Snapshot :=
  columns.foldl (fun snapshot column => snapshot.setColumn column (bus.rowsOf keyboard column))
    snapshot

/-- The snapshot that a scan takes. -/
def matrix (bus : MemoryBus) (keyboard : Keyboard) : Snapshot :=
  bus.fillIn keyboard .released (List.range columnCount)

/-- What a scan takes does not depend on what is held. -/
theorem matrix_held (bus : MemoryBus) (keyboard : Keyboard) (held : Snapshot) :
    bus.matrix { keyboard with held } = bus.matrix keyboard := by
  unfold matrix fillIn rowsOf
  rfl

/-- The register file after a scan: no column is selected. -/
def deselected (bus : MemoryBus) (keyboard : Keyboard) : MemoryBus :=
  bus.written keyboard.columnSelect .word deselectAll

/-- The buttons of a port that are down. -/
def buttonsAt (bus : MemoryBus) (lines : PortLines) : UInt8 :=
  lines.pressed (bus.steady lines.fire).toUInt8 (bus.steady lines.pot)

/-- Where the pen is, if it is seen. -/
def seenBy (bus : MemoryBus) (pen : Lightpen) : Option PenSighting :=
  if bus.steady pen.potgor &&& potPenSeen = 0 then none
  else some ⟨Beam.decode (bus.steady pen.vhposr) (bus.steady pen.vposr),
    bus.steady pen.joy0dat &&& penTipBit == 0⟩

theorem buttonsAt_congr {bus bus' : MemoryBus} {lines : PortLines}
    (hfire : bus.steady lines.fire = bus'.steady lines.fire)
    (hpot : bus.steady lines.pot = bus'.steady lines.pot) :
    bus.buttonsAt lines = bus'.buttonsAt lines := by
  unfold buttonsAt
  rw [hfire, hpot]

theorem seenBy_congr {bus bus' : MemoryBus} {pen : Lightpen}
    (h : ∀ address ∈ [pen.potgor, pen.vhposr, pen.vposr, pen.joy0dat],
      bus.steady address = bus'.steady address) : bus.seenBy pen = bus'.seenBy pen := by
  unfold seenBy
  rw [h pen.potgor (by simp), h pen.vhposr (by simp), h pen.vposr (by simp),
    h pen.joy0dat (by simp)]

end MemoryBus

/-! ## The keyboard -/

namespace Keyboard

variable {ω : Type} {bus running : MemoryBus}

/-- Two register files that differ at most in the column that is selected. -/
def SameUnselected (keyboard : Keyboard) (running bus : MemoryBus) : Prop :=
  ∀ value, SameOutside [] (running.written keyboard.columnSelect .word value)
    (bus.written keyboard.columnSelect .word value)

theorem SameUnselected.written {keyboard : Keyboard} (h : keyboard.SameUnselected running bus)
    (value : UInt16) :
    keyboard.SameUnselected (running.written keyboard.columnSelect .word value) bus :=
  fun later => (MemoryBus.written_written ..).trans (h later)

theorem SameUnselected.counted {keyboard : Keyboard} (h : keyboard.SameUnselected running bus) :
    keyboard.SameUnselected running.counted bus :=
  fun value => ((SameOutside.refl [] running).counted.written _ _ value).trans (h value)

/-- After a scan only the selected column may differ. -/
theorem SameUnselected.of_deselected {keyboard : Keyboard}
    (h : SameOutside [] running (bus.deselected keyboard)) :
    keyboard.SameUnselected running bus :=
  fun _ => (h.written ..).trans (MemoryBus.written_written ..)

theorem SameUnselected.rowsOf {keyboard : Keyboard} (h : keyboard.SameUnselected running bus)
    (column : Nat) : running.rowsOf keyboard column = bus.rowsOf keyboard column :=
  congrArg UInt16.toUInt8 ((h _).steady_eq _)

/-- What is selected does not matter for a scan. -/
theorem SameUnselected.matrix {keyboard : Keyboard} (h : keyboard.SameUnselected running bus) :
    running.matrix keyboard = bus.matrix keyboard := by
  unfold MemoryBus.matrix MemoryBus.fillIn
  congr 1
  funext snapshot column
  rw [h.rowsOf]

/-- Nothing is pending that a scan would meet. -/
structure Unhindered (keyboard : Keyboard) (bus : MemoryBus) : Prop where
  strobes : bus.writeFaultAt keyboard.columnSelect = .next 0
  rows : bus.faultAt keyboard.rowSense = .next 0
  script : bus.scriptAt keyboard.rowSense = []

variable (keyboard : Keyboard)

theorem run_senseColumns : ∀ (columns : List Nat) (snapshot : Snapshot) {running : MemoryBus},
    keyboard.Unhindered running → keyboard.SameUnselected running bus →
    ∃ after, (keyboard.senseColumns columns snapshot : Attempt ω Snapshot).run.run running =
        ⟨.ok (bus.fillIn keyboard snapshot columns), after, []⟩ ∧
      SamePending after running ∧ keyboard.SameUnselected after bus
  | [], _, running, _, hsame => ⟨running, rfl, .refl running, hsame⟩
  | column :: rest, snapshot, running, hfree, hsame => by
    let strobed := running.written keyboard.columnSelect .word (selectWord column)
    have hstrobed : keyboard.Unhindered strobed := ⟨hfree.strobes, hfree.rows, hfree.script⟩
    obtain ⟨after, hrun, hpending, hafter⟩ := run_senseColumns rest
      (snapshot.setColumn column (bus.rowsOf keyboard column))
      (⟨hfree.strobes, hfree.rows, hfree.script⟩ : keyboard.Unhindered strobed.counted)
      (hsame.written (selectWord column)).counted
    refine ⟨after, ?_, ⟨hpending.reads, hpending.writes, hpending.scripts⟩, hafter⟩
    unfold senseColumns Attempt.writeWord
    rw [MemoryBus.run_write_bind hfree.strobes,
      MemoryBus.run_readByte_bind hstrobed.rows hstrobed.script]
    have hrows : (strobed.steady keyboard.rowSense).toUInt8 = bus.rowsOf keyboard column :=
      hsame.rowsOf column
    rw [hrows]
    exact hrun

/-- A scan that meets nothing takes the matrix, and leaves no column selected. -/
theorem run_scan_unhindered (hfree : keyboard.Unhindered bus) :
    ∃ after, (keyboard.scan : Attempt ω Snapshot).run.run bus =
        ⟨.ok (bus.matrix keyboard), after, []⟩ ∧
      SamePending after bus ∧ SameOutside [] after (bus.deselected keyboard) := by
  have hself : keyboard.SameUnselected bus bus := fun value => SameOutside.refl ..
  obtain ⟨sensed, hrun, hsensed, hsame⟩ :=
    keyboard.run_senseColumns (ω := ω) (List.range columnCount) .released hfree hself
  have hselect : sensed.writeFaultAt keyboard.columnSelect = .next 0 :=
    (hsensed.writes _).trans hfree.strobes
  refine ⟨_, ?_, hsensed.written, hsame deselectAll⟩
  unfold scan
  rw [ExceptT.run_bind, Program.run_bind, hrun]
  dsimp only
  unfold Attempt.writeWord
  rw [MemoryBus.run_write_bind hselect]
  rfl

/-- A scan takes the matrix, and leaves no column selected. -/
theorem run_scan (hcalm : bus.Calm) :
    ∃ after, (keyboard.scan : Attempt ω Snapshot).run.run bus =
        ⟨.ok (bus.matrix keyboard), after, []⟩ ∧
      after.Calm ∧ SameOutside [] after (bus.deselected keyboard) := by
  have hfree : keyboard.Unhindered bus := ⟨hcalm.writes _, hcalm.reads _, hcalm.scripts _⟩
  obtain ⟨after, hrun, hpending, hsame⟩ := keyboard.run_scan_unhindered (ω := ω) hfree
  exact ⟨after, hrun, hpending.calm hcalm, hsame⟩

/-- Setting up writes the two direction registers. -/
theorem run_setUp_clear (hselect : bus.Clear keyboard.selectDirection)
    (hsense : bus.Clear keyboard.senseDirection) :
    (keyboard.setUp : Attempt ω Unit).run.run bus =
      ⟨.ok (), (bus.written keyboard.selectDirection .byte 0xFF).written keyboard.senseDirection
        .byte 0x00, []⟩ := by
  unfold setUp Attempt.writeByte
  rw [Attempt.run_bind_of_write (hselect.write_eq ..), hsense.written.run_write]
  rfl

end Keyboard

/-! ## The mouse -/

namespace Mouse

variable {ω : Type} {bus : MemoryBus} (mouse : Mouse)

theorem run_readButtons (hcalm : bus.Calm) (port : Port) :
    (mouse.readButtons port : Attempt ω UInt8).run.run bus =
      ⟨.ok (bus.buttonsAt (port.lines mouse.map)), bus.counted.counted, []⟩ := by
  unfold readButtons
  rw [hcalm.run_readByte_bind, hcalm.counted.run_readWord_bind]
  rfl

/-- Setting up makes the fire lines inputs, and leaves the other bits of the direction
register as they are. -/
theorem run_setUp_clear (h : bus.Clear mouse.map.ciaaDdra) :
    (mouse.setUp : Attempt ω Unit).run.run bus =
      ⟨.ok (), bus.counted.written mouse.map.ciaaDdra .byte
        ((bus.steady mouse.map.ciaaDdra).toUInt8 &&& ~~~mouse.fireBits).toUInt16, []⟩ := by
  unfold setUp Attempt.writeByte
  rw [h.run_readByte_bind, h.counted.run_write]

end Mouse

/-! ## The pen -/

namespace Lightpen

variable {ω : Type} {bus : MemoryBus} (pen : Lightpen)

theorem run_sense (hcalm : bus.Calm) :
    ∃ after, (pen.sense : Attempt ω (Option PenSighting)).run.run bus =
        ⟨.ok (bus.seenBy pen), after, []⟩ ∧ after.Calm ∧ SameOutside [] after bus := by
  unfold sense detect MemoryBus.seenBy
  rw [bind_assoc, hcalm.run_readWord_bind, pure_bind]
  by_cases hseen : bus.steady pen.potgor &&& potPenSeen = 0
  · have hnot : (bus.steady pen.potgor &&& potPenSeen != 0) = false := by simp [hseen]
    rw [if_pos hseen, hnot]
    exact ⟨bus.counted, rfl, hcalm.counted, (SameOutside.refl [] bus).counted⟩
  · have hsees : (bus.steady pen.potgor &&& potPenSeen != 0) = true := by simp [hseen]
    rw [if_neg hseen, hsees, if_pos rfl]
    unfold sighting position tip
    simp only [bind_assoc, pure_bind]
    rw [hcalm.counted.run_readWord_bind, hcalm.counted.counted.run_readWord_bind,
      hcalm.counted.counted.counted.run_readWord_bind]
    exact ⟨bus.counted.counted.counted.counted, rfl, hcalm.counted.counted.counted.counted,
      (SameOutside.refl [] bus).counted.counted.counted.counted⟩

/-- Setting up turns the latch bit on, and leaves the other bits of the bitplane control
register as they are. -/
theorem run_setUp_clear (h : bus.Clear pen.bplcon0) :
    pen.setUp.run bus =
      ⟨true, bus.counted.written pen.bplcon0 .word (bus.steady pen.bplcon0 ||| latchEnableBit),
        [.latchEnabled]⟩ := by
  have henable : (pen.enableLatch : Attempt Note Unit).run.run bus =
      ⟨.ok (), bus.counted.written pen.bplcon0 .word
        (bus.steady pen.bplcon0 ||| latchEnableBit), []⟩ := by
    unfold enableLatch Attempt.writeWord
    rw [h.run_readWord_bind, h.counted.run_write]
  unfold setUp
  rw [Program.run_bind, henable]
  rfl

end Lightpen

end InputBridge
