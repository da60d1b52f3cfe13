import InputBridge.Bus.Memory
import InputBridge.Registers

/-!
# An idle machine

A register file that looks like a machine with nobody at it: every key up, the
mouse still, no button down and no lightpen in sight.
-/

namespace InputBridge

/-- POTGOR with every pot pin high and no pen seen. -/
def idlePots : UInt16 := 0x5500

/-- The register file of an idle machine. The fire lines are pins, so that the
keyboard strobe does not move them. -/
def idleMachine (map : RegisterMap) : MemoryBus :=
  let bus : MemoryBus := {}
  let bus := bus.strobe map.rowSense map.columnSelect 0x00FF
  let bus := bus.setPins map.ciaaPra (fireBit0 ||| fireBit1).toUInt16
  let bus := bus.setLevel map.ciaaPra 0x00FF
  let bus := bus.setLevel map.potgor idlePots
  bus.setLevel map.joy0dat penTipBit

end InputBridge
