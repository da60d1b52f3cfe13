/-!
# The devices

Three devices are scanned each tick, always in the same order: the keyboard, the
mouse, the lightpen. `PerDevice` holds one value for each of them.
-/

namespace InputBridge

/-- An input device. -/
inductive Device where
  | keyboard
  | mouse
  | lightpen
  deriving DecidableEq, Repr

namespace Device

/-- Every device, in scan order. -/
def all : List Device := [.keyboard, .mouse, .lightpen]

/-- The name of a device. -/
def name : Device → String
  | .keyboard => "keyboard"
  | .mouse => "mouse"
  | .lightpen => "lightpen"

end Device

/-- One value per device. -/
structure PerDevice (α : Type) where
  keyboard : α
  mouse : α
  lightpen : α
  deriving DecidableEq, Repr

namespace PerDevice

variable {α γ δ : Type}

/-- The value of a device. -/
def get (values : PerDevice α) : Device → α
  | .keyboard => values.keyboard
  | .mouse => values.mouse
  | .lightpen => values.lightpen

/-- The same value for every device. -/
def replicate (value : α) : PerDevice α := ⟨value, value, value⟩

/-- The values in scan order. -/
def toList (values : PerDevice α) : List α := Device.all.map values.get

/-- Combines the values of each device. -/
def zipWith (f : α → γ → δ) (left : PerDevice α) (right : PerDevice γ) : PerDevice δ :=
  ⟨f left.keyboard right.keyboard, f left.mouse right.mouse, f left.lightpen right.lightpen⟩

end PerDevice

end InputBridge
