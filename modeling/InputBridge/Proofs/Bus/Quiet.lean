import InputBridge.Proofs.Bus.Calm
import InputBridge.Proofs.Bus.Scope

/-!
# Quiet registers

A register is quiet if nothing at all interferes with it: it is clear, none of its bits is
driven from outside, and it is not read through a strobe. It then behaves like a memory
cell: a read gives its level (`Quiet.steady_eq`), and a write replaces it
(`Quiet.level_written`). No access can end this, so it lasts through every program
(`Quiet.run`).

The level of any register, quiet or not, can be changed by a write to it only, so a program
that may not write to it leaves it as it is (`Within.level_run`).
-/

namespace InputBridge

namespace MemoryBus

/-- A register that nothing interferes with. -/
structure Quiet (bus : MemoryBus) (address : Address) : Prop extends bus.Clear address where
  pins : bus.pins address = 0
  direct : bus.strobes.get? address = none

namespace Quiet

variable {bus : MemoryBus} {address other : Address} {width : Width} {value : UInt16}

theorem steady_eq (h : bus.Quiet address) : bus.steady address = bus.level address :=
  steady_eq_level h.direct

theorem counted (h : bus.Quiet address) : bus.counted.Quiet address :=
  ⟨h.toClear.counted, h.pins, h.direct⟩

theorem written (h : bus.Quiet address) : (bus.written other width value).Quiet address :=
  ⟨h.toClear.written, h.pins, h.direct⟩

/-- A quiet register takes the word that is written to it, whatever it held. -/
theorem level_written (h : bus.Quiet address) (width : Width) (value : UInt16) :
    (bus.written address width value).level address = value &&& width.mask := by
  have hall : value &&& width.mask &&& ~~~(0 : UInt16) = value &&& width.mask := UInt16.and_neg_one
  rw [MemoryBus.level_written, if_pos rfl, h.pins, UInt16.and_zero, UInt16.zero_or, hall]

/-! ## Runs -/

theorem read (h : bus.Quiet address) : (bus.read other width).2.Quiet address where
  reads := by
    rw [faultAt_read]
    split
    next heq => exact (Fault.used_of_none (heq ▸ h.reads)).trans (heq ▸ h.reads)
    next => exact h.reads
  writes := writeFaultAt_read.trans h.writes
  script := by
    rw [scriptAt_read]
    split
    next heq => rw [← heq.1, h.script, List.tail_nil]
    next => exact h.script
  pins := pins_read.trans h.pins
  direct := by rw [strobes_read, h.direct]

theorem write (h : bus.Quiet address) : (bus.write other width value).2.Quiet address where
  reads := faultAt_write.trans h.reads
  writes := by
    rw [writeFaultAt_write]
    split
    next heq => exact (Fault.used_of_none (heq ▸ h.writes)).trans (heq ▸ h.writes)
    next => exact h.writes
  script := scriptAt_write.trans h.script
  pins := pins_write.trans h.pins
  direct := by rw [strobes_write, h.direct]

/-- Whatever a program does, a quiet register stays quiet. -/
theorem run {ω α : Type} (h : bus.Quiet address) (program : Program ω α) :
    (program.run bus).bus.Quiet address := by
  let quiet (after : MemoryBus) : Prop := after.Quiet address
  have hrun : quiet (program.run bus).bus := program.within_true.bus_run
    (fun _ _ _ _ hquiet => hquiet.read) (fun _ _ _ _ _ hquiet => hquiet.write) h
  exact hrun

end Quiet

end MemoryBus

namespace Program

variable {ω α : Type}

/-- A program leaves the registers alone that it may not write to. -/
theorem Within.level_run {scope : Scope ω} {post : α → Prop} {program : Program ω α}
    (h : program.Within scope post) {address : Address}
    (hout : ∀ width value, ¬scope.writes address width value) (bus : MemoryBus) :
    (program.run bus).bus.level address = bus.level address := by
  let same (after : MemoryBus) : Prop := after.level address = bus.level address
  have hrun : same (program.run bus).bus := by
    refine h.bus_run (fun other width after _ hsame => ?_)
      (fun other width value after hwrite hsame => ?_) rfl
    · exact MemoryBus.level_read.trans hsame
    · have hne : address ≠ other := fun heq => hout width value (heq ▸ hwrite)
      exact (MemoryBus.level_write_ne hne).trans hsame
  exact hrun

end Program

end InputBridge
