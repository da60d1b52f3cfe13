import InputBridge.Bus.Basic

/-!
# The registers of the attached machine

Devices never name an address themselves. They are given a `RegisterMap`, which
is chosen once for the chipset of the machine and lists only the registers that
input devices touch. The input registers sit at the same addresses on all three
chipset generations.
-/

namespace InputBridge

/-- Generation of the custom chips in the machine. -/
inductive Chipset where
  | ocs
  | ecs
  | aga
  deriving DecidableEq, Repr, Inhabited

/-- A name that no chipset has, in lower case. -/
structure UnknownChipset where
  name : String
  deriving DecidableEq, Repr

/-- The text that refuses an unknown chipset. -/
def UnknownChipset.message (unknown : UnknownChipset) : String :=
  "unknown chipset '" ++ unknown.name ++ "' (expected ocs, ecs or aga)"

namespace Chipset

/-- Every chipset, oldest first. -/
def all : List Chipset := [.ocs, .ecs, .aga]

/-- The name of a chipset. -/
def name : Chipset → String
  | .ocs => "ocs"
  | .ecs => "ecs"
  | .aga => "aga"

/-- The chipset with exactly this name. -/
def named? (name : String) : Option Chipset := all.find? (·.name = name)

/-- `text` with the letters A to Z in lower case and every other character as it is. -/
def lowered (text : String) : String := String.ofList (text.toList.map Char.toLower)

/-- Reads the name of a chipset in any mixture of cases. -/
def parse (text : String) : Except UnknownChipset Chipset :=
  match named? (lowered text) with
  | some chipset => .ok chipset
  | none => .error ⟨lowered text⟩

end Chipset

/-- Absolute addresses of every register the input devices use. -/
structure RegisterMap where
  chipset : Chipset
  /-- Port A data of the first interface adapter: fire buttons. -/
  ciaaPra : Address
  /-- Port B data of the first interface adapter. -/
  ciaaPrb : Address
  /-- Direction of port A, a bit is 1 for an output. -/
  ciaaDdra : Address
  /-- Direction of port B. -/
  ciaaDdrb : Address
  /-- Column strobe of the keyboard, an active-low word. It shares port A with the fire buttons. -/
  columnSelect : Address
  /-- Row lines of the keyboard, one bit per row. -/
  rowSense : Address
  /-- Counters of game port 0. -/
  joy0dat : Address
  /-- Counters of game port 1. -/
  joy1dat : Address
  /-- Levels of the pot pins: further mouse buttons, and the lightpen. -/
  potgor : Address
  /-- High bits of the vertical beam position. -/
  vposr : Address
  /-- Vertical and horizontal beam position. -/
  vhposr : Address
  /-- Bitplane control, with the enable bit of the lightpen latch. -/
  bplcon0 : Address
  deriving DecidableEq, Repr

namespace RegisterMap

/-- Base of the first interface adapter. -/
def adapterBase : Address := 0xBFE001

/-- Base of the custom chips. -/
def customBase : Address := 0xDFF000

/-- The register map of a chipset. -/
def forChipset (chipset : Chipset) : RegisterMap where
  chipset := chipset
  ciaaPra := adapterBase
  ciaaPrb := adapterBase + 0x100
  ciaaDdra := adapterBase + 0x200
  ciaaDdrb := adapterBase + 0x300
  columnSelect := adapterBase
  rowSense := adapterBase + 0x100
  joy0dat := customBase + 0x00A
  joy1dat := customBase + 0x00C
  potgor := customBase + 0x016
  vposr := customBase + 0x004
  vhposr := customBase + 0x006
  bplcon0 := customBase + 0x100

instance : Inhabited RegisterMap := ⟨forChipset default⟩

end RegisterMap

/-! ## Bits within the registers -/

/-- Fire button of game port 0 on adapter port A, active low. -/
def fireBit0 : UInt8 := 0x40

/-- Fire button of game port 1 on adapter port A, active low. -/
def fireBit1 : UInt8 := 0x80

/-- Middle button of game port 0 in POTGOR, active low. -/
def potMiddle0 : UInt16 := 0x0100

/-- Right button of game port 0 in POTGOR, active low. -/
def potRight0 : UInt16 := 0x0400

/-- Middle button of game port 1 in POTGOR, active low. -/
def potMiddle1 : UInt16 := 0x1000

/-- Right button of game port 1 in POTGOR, active low. -/
def potRight1 : UInt16 := 0x4000

/-- Bit of POTGOR that reads high while the lightpen sees the beam. -/
def potPenSeen : UInt16 := 0x8000

/-- Bit of BPLCON0 that lets the lightpen latch the beam counters. -/
def latchEnableBit : UInt16 := 0x0008

/-- Tip of the lightpen in JOY0DAT, active low. -/
def penTipBit : UInt16 := 0x0040

end InputBridge
