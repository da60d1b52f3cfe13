/-!
# Game ports

A mouse is plugged into one of two game ports.
-/

namespace InputBridge

/-- A game port. -/
inductive Port where
  | port0
  | port1
  deriving DecidableEq, Repr

/-- A number that no port has. -/
structure UnknownPort where
  number : Nat
  deriving DecidableEq, Repr

/-- The text that refuses an unknown port. -/
def UnknownPort.message (unknown : UnknownPort) : String :=
  "mouse port must be 0 or 1, got " ++ unknown.number.repr

namespace Port

/-- Both ports. -/
def all : List Port := [.port0, .port1]

/-- The number of a port. -/
def index : Port → Nat
  | .port0 => 0
  | .port1 => 1

/-- The port with a number. -/
def numbered : Nat → Except UnknownPort Port
  | 0 => .ok .port0
  | 1 => .ok .port1
  | number => .error ⟨number⟩

end Port

end InputBridge
