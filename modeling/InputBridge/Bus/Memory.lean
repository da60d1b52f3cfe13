import InputBridge.Table
import InputBridge.Bus.Basic

/-!
# A register file in memory

`MemoryBus` is a register bus without a machine behind it: a register file for
trying devices out, with the means to make it behave like a machine.

* *Pins* are register bits that are driven from outside: a write leaves them alone.
* A *script* is a queue of values that successive reads of an address return.
* A *strobed* register reads a value that depends on the word last written to
  another register, as the rows of a column-strobed matrix do.
* A *fault* makes accesses of an address fail, a number of times or for good.

A read looks for a fault first, then for a scripted value, then for a strobed
value, then for the level of the register, which is 0 if nothing ever set it.
-/

namespace InputBridge

/-- How often accesses of an address still fail. The count has no bound here. It only goes
down, so one that is given in 64 bits never leaves them. -/
inductive Fault where
  | next (count : Nat)
  | always
  deriving DecidableEq, Repr

/-- The count that stands for a fault without an end. -/
def Fault.endless : Nat := UInt64.size - 1

/-- The fault for a count. -/
def Fault.ofCount (count : Nat) : Fault :=
  if count = endless then .always else .next count

/-- A register read through a strobe: one value per selector, and one for the others. -/
structure Strobed where
  select : Address
  values : Table UInt16 UInt16 := .empty
  otherwise : UInt16
  deriving Inhabited

/-- One successful write. -/
structure Written where
  address : Address
  width : Width
  value : UInt16
  deriving DecidableEq, Repr

/-- A register file in memory. -/
structure MemoryBus where
  levels : Table Address UInt16 := .empty
  /-- Bits driven from outside, per address. -/
  pinMasks : Table Address UInt16 := .empty
  /-- The word last written per address, before the pins are applied. -/
  latches : Table Address UInt16 := .empty
  scripts : Table Address (List UInt16) := .empty
  strobes : Table Address Strobed := .empty
  readFaults : Table Address Fault := .empty
  writeFaults : Table Address Fault := .empty
  /-- Why the channel cannot be brought up, if it cannot. -/
  outage : Option String := none
  /-- Successful writes, oldest first. -/
  writes : Array Written := #[]
  /-- Number of successful reads. It has no bound: what a counter of 64 bits does after its
  greatest value is left out. -/
  readCount : Nat := 0

/-- If a fault is pending at `address`, the faults with that one used up. -/
def takeFault (faults : Table Address Fault) (address : Address) : Option (Table Address Fault) :=
  match faults.get? address with
  | some .always => some faults
  | some (.next (count + 1)) => some (faults.put address (.next count))
  | _ => none

namespace MemoryBus

/-! ## Setting the machine up -/

/-- The level of a register as last set or written. -/
def level (bus : MemoryBus) (address : Address) : UInt16 := (bus.levels.get? address).getD 0

/-- Drives a register to `value`, pins included. -/
def setLevel (bus : MemoryBus) (address : Address) (value : UInt16) : MemoryBus :=
  { bus with levels := bus.levels.put address value }

/-- The bits of a register that writes leave alone. -/
def pins (bus : MemoryBus) (address : Address) : UInt16 := (bus.pinMasks.get? address).getD 0

/-- Makes the bits of `mask` pins. -/
def setPins (bus : MemoryBus) (address : Address) (mask : UInt16) : MemoryBus :=
  { bus with pinMasks := bus.pinMasks.put address mask }

/-- The values that the next reads of an address return. -/
def scriptAt (bus : MemoryBus) (address : Address) : List UInt16 :=
  (bus.scripts.get? address).getD []

/-- Queues values for the next reads of an address. -/
def script (bus : MemoryBus) (address : Address) (values : List UInt16) : MemoryBus :=
  { bus with scripts := bus.scripts.put address (bus.scriptAt address ++ values) }

/-- Makes `address` a strobed register that is selected through `select`. -/
def strobe (bus : MemoryBus) (address select : Address) (otherwise : UInt16) : MemoryBus :=
  { bus with strobes := bus.strobes.put address { select, otherwise } }

/-- Gives a strobed register its value for one selector; of any other register
there is nothing to set. -/
def setStrobed (bus : MemoryBus) (address : Address) (selector value : UInt16) : MemoryBus :=
  match bus.strobes.get? address with
  | none => bus
  | some strobed =>
    let strobed := { strobed with values := strobed.values.put selector value }
    { bus with strobes := bus.strobes.put address strobed }

/-- Makes reads of an address fail. -/
def failReads (bus : MemoryBus) (address : Address) (fault : Fault) : MemoryBus :=
  { bus with readFaults := bus.readFaults.put address fault }

/-- Makes writes to an address fail. -/
def failWrites (bus : MemoryBus) (address : Address) (fault : Fault) : MemoryBus :=
  { bus with writeFaults := bus.writeFaults.put address fault }

/-- Makes the channel impossible to bring up. -/
def failConnect (bus : MemoryBus) (reason : String) : MemoryBus :=
  { bus with outage := some reason }

/-- Takes every fault away. -/
def clearFaults (bus : MemoryBus) : MemoryBus :=
  { bus with readFaults := .empty, writeFaults := .empty, outage := none }

/-! ## Answering accesses -/

/-- The reason that injected faults give. -/
def faultReason : String := "injected fault"

/-- The word that selects the value of registers strobed through `select`: the
last one written there, or the level if none ever was. -/
def selector (bus : MemoryBus) (select : Address) : UInt16 :=
  (bus.latches.get? select).getD (bus.level select)

/-- What a register reads when nothing is scripted for it. -/
def steady (bus : MemoryBus) (address : Address) : UInt16 :=
  match bus.strobes.get? address with
  | none => bus.level address
  | some strobed => (strobed.values.get? (bus.selector strobed.select)).getD strobed.otherwise

/-- Brings the channel up, unless it is out. -/
def connect (bus : MemoryBus) : Except BusError Unit × MemoryBus :=
  match bus.outage with
  | some reason => (.error (.channelDown reason), bus)
  | none => (.ok (), bus)

/-- Answers a read. A read that hits a fault takes nothing from the script. -/
def read (address : Address) (width : Width) (bus : MemoryBus) :
    Except BusError UInt16 × MemoryBus :=
  match takeFault bus.readFaults address with
  | some readFaults =>
    (.error (.readFailed address width faultReason), { bus with readFaults })
  | none =>
    let counted := { bus with readCount := bus.readCount + 1 }
    match bus.scriptAt address with
    | value :: rest =>
      (.ok (value &&& width.mask), { counted with scripts := bus.scripts.put address rest })
    | [] => (.ok (bus.steady address &&& width.mask), counted)

/-- Answers a write. The value is cut to the width; pins keep their level. -/
def write (address : Address) (width : Width) (value : UInt16) (bus : MemoryBus) :
    Except BusError Unit × MemoryBus :=
  match takeFault bus.writeFaults address with
  | some writeFaults =>
    (.error (.writeFailed address width value faultReason), { bus with writeFaults })
  | none =>
    let value := value &&& width.mask
    let pins := bus.pins address
    let level := (bus.level address &&& pins) ||| (value &&& ~~~pins)
    (.ok (), { bus with
      levels := bus.levels.put address level
      latches := bus.latches.put address value
      writes := bus.writes.push ⟨address, width, value⟩ })

instance : RegisterBus MemoryBus where
  connect := MemoryBus.connect
  read := MemoryBus.read
  write := MemoryBus.write

end MemoryBus

end InputBridge
