import InputBridge.Text.Numeral

/-!
# Register buses

The attached machine is reached through a register channel: synchronous reads
and writes of 1, 8 or 16 bits at an address, each of which may fail. A
`RegisterBus` is anything that answers such accesses; an answer may depend on
everything that was asked before, so a bus is a state and each access is a step
of it.
-/

namespace InputBridge

/-- Absolute address of a register. -/
abbrev Address := UInt32

/-- Width of one access. -/
inductive Width where
  | bit
  | byte
  | word
  deriving DecidableEq, Repr

namespace Width

/-- Number of bits an access of this width carries. -/
def bits : Width → Nat
  | .bit => 1
  | .byte => 8
  | .word => 16

/-- The bits a value of this width may have set. -/
def mask : Width → UInt16
  | .bit => 0x0001
  | .byte => 0x00FF
  | .word => 0xFFFF

/-- The width as error messages write it. -/
def text (width : Width) : String := Text.decimal width.bits ++ "-bit"

end Width

/-- Why an access to the register channel did not succeed. -/
inductive BusError where
  /-- A read at an address failed. -/
  | readFailed (address : Address) (width : Width) (reason : String)
  /-- A write failed; `value` is the word as it was handed over, not yet cut to the width. -/
  | writeFailed (address : Address) (width : Width) (value : UInt16) (reason : String)
  /-- The channel could not be brought up at all. -/
  | channelDown (reason : String)
  deriving DecidableEq, Repr

/-- The text of a channel error. Addresses have six digits or more, words four. -/
def BusError.message : BusError → String
  | .readFailed address width reason =>
    width.text ++ " read at 0x" ++ Text.hex 6 address.toNat ++ " failed: " ++ reason
  | .writeFailed address width value reason =>
    width.text ++ " write of 0x" ++ Text.hex 4 value.toNat ++ " at 0x" ++
      Text.hex 6 address.toNat ++ " failed: " ++ reason
  | .channelDown reason => "register channel unavailable: " ++ reason

/-- A state that answers register accesses. Each operation gives the answer and
the state after it. A channel that needs no bringing up may leave `connect` out. -/
class RegisterBus (β : Type) where
  connect : β → Except BusError Unit × β := fun bus => (.ok (), bus)
  read : Address → Width → β → Except BusError UInt16 × β
  write : Address → Width → UInt16 → β → Except BusError Unit × β

end InputBridge
