import InputBridge.Bus.Basic

/-!
# A bus stuck at one value

Every read of a stuck bus answers the same word, whatever its width, and every
access is noted. It shows what a device asks for, and that a byte read never
hands on more than a byte.
-/

namespace InputBridge

/-- One access as it was asked for. -/
inductive Access where
  | read (address : Address) (width : Width)
  | write (address : Address) (width : Width) (value : UInt16)
  deriving DecidableEq, Repr

/-- A bus whose reads all answer `value`, with the accesses so far, oldest first. -/
structure StuckBus where
  value : UInt16
  accesses : List Access := []

instance : RegisterBus StuckBus where
  read address width bus :=
    (.ok bus.value, { bus with accesses := bus.accesses ++ [.read address width] })
  write address width value bus :=
    (.ok (), { bus with accesses := bus.accesses ++ [.write address width value] })

end InputBridge
