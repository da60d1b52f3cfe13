import InputBridge.Diagnostics
import InputBridge.Proofs.Device.KeyEdges
import InputBridge.Proofs.Device.PenStates

/-!
# What there is to be found

The check prints what it finds, and the first tick of a session reports it as events. Both
are renderings of the same `Findings`: the keys that are held, the buttons that are down on
each port, and where the pen is. `Findings.lines` is the one rendering, and `keyEdges`,
`buttonEdges` and `penEvents` are the other. The lemmas say that the program renders
findings like this, and that the devices of a session that was never ticked do.
-/

namespace InputBridge

/-- What can be found on a machine. -/
structure Findings where
  snapshot : Snapshot
  /-- Bits of the buttons that are down, per port. -/
  buttons : Port → UInt8
  pen : Option PenSighting

namespace Findings

variable (found : Findings)

/-- The keys held in one row. -/
def held (row : Nat) : List Key :=
  ((List.range columnCount).filter (found.snapshot.isPressed row)).filterMap
    fun column => KeyMap.standard.get? row column

/-- The buttons that are down on a port. -/
def down (port : Port) : List Button :=
  mouseButtons.filterMap fun (bit, button) =>
    if found.buttons port &&& bit = 0 then none else some button

/-! ## As lines -/

/-- The line of a row: its bits, and the labels of the keys that are held. -/
def rowLine (row : Nat) : String :=
  "  row " ++ row.repr ++ ": " ++
    Text.binary columnCount (found.snapshot.rowBits row).toNat ++ "  " ++
    (if found.held row = [] then "-" else " ".intercalate ((found.held row).map Key.label))

/-- The line of a port: the names of the buttons that are down, in lower case. -/
def portLine (port : Port) : String :=
  "mouse port " ++ port.index.repr ++ ": " ++ "ok, buttons " ++
    (if found.down port = [] then "none"
      else "+".intercalate ((found.down port).map fun button => Chipset.lowered button.name))

/-- The line of a pen, if it is seen. -/
def penLine : Option PenSighting → String
  | none => "lightpen: not detected"
  | some ⟨beam, tipDown⟩ =>
    "lightpen: detected at (" ++ beam.x.toNat.repr ++ ", " ++ beam.y.toNat.repr ++ ") of " ++
      screenWidth.repr ++ "x" ++ screenHeight.repr ++ ", tip " ++
      (if tipDown then "down" else "up")

/-- The lines for the devices that are enabled. -/
def lines (config : Config) : List String :=
  ("chipset: " ++ config.chipset.name) ::
    ((if config.keyboard then
        "keyboard: ok" :: (List.range rowCount).map found.rowLine else []) ++
      (if config.mouse then config.mousePorts.map found.portLine else []) ++
      (if config.lightpen then [penLine found.pen] else []))

theorem rowLine_eq (row : Nat) : Diagnostics.rowLine found.snapshot row = found.rowLine row := by
  have hlabels : Diagnostics.heldLabels found.snapshot row = (found.held row).map Key.label := by
    unfold Diagnostics.heldLabels held
    rw [List.map_filterMap]
  unfold Diagnostics.rowLine rowLine
  rw [hlabels]
  simp only [List.map_eq_nil_iff]

theorem buttonNames_eq (port : Port) :
    Diagnostics.buttonNames (found.buttons port) =
      if found.down port = [] then "none"
      else "+".intercalate ((found.down port).map fun button => Chipset.lowered button.name) := by
  have hleft : Chipset.lowered Button.left.name = "left" := by decide
  have hright : Chipset.lowered Button.right.name = "right" := by decide
  have hmiddle : Chipset.lowered Button.middle.name = "middle" := by decide
  unfold Diagnostics.buttonNames down mouseButtons
  by_cases hl : found.buttons port &&& leftBit = 0 <;>
    by_cases hr : found.buttons port &&& rightBit = 0 <;>
      by_cases hm : found.buttons port &&& middleBit = 0 <;>
        simp [hl, hr, hm, hleft, hright, hmiddle]

/-! ## As events -/

/-- The edges of the keys, row by row. -/
def keyEdges : List Event := ((List.range rowCount).flatMap found.held).map (.key · true)

/-- The edges of the buttons of a port. -/
def buttonEdges (port : Port) : List Event := (found.down port).map (.button · true)

/-- The events of the pen, its tip among them if it is down. -/
def penEvents : List Event :=
  match found.pen with
  | none => []
  | some ⟨beam, tipDown⟩ => placeEvents beam tipDown ++ if tipDown then tipEvents true else []

/-- If nothing was held before, every key that is held is an edge. -/
theorem keyEdges_eq :
    Position.all.filterMap (edgeAt .standard .released found.snapshot) = found.keyEdges := by
  unfold Position.all keyEdges
  rw [List.filterMap_flatMap, List.map_flatMap]
  refine List.flatMap_congr fun row _ => ?_
  unfold held
  rw [List.filterMap_map, List.filterMap_filter, List.map_filterMap]
  refine List.filterMap_congr fun column _ => ?_
  show edgeAt .standard .released found.snapshot ⟨row, column⟩ = _
  unfold edgeAt
  rw [Snapshot.isPressed_released]
  cases found.snapshot.isPressed row column <;> rfl

/-- If no button was down before, every button that is down is an edge. -/
theorem buttonEdges_eq (port : Port) :
    InputBridge.buttonEdges (found.buttons port ^^^ 0) (found.buttons port) =
      found.buttonEdges port := by
  unfold InputBridge.buttonEdges buttonEdges down
  rw [UInt8.xor_zero, List.map_filterMap]
  congr 1
  funext (bit, button)
  dsimp only
  split
  next => rfl
  next hdown => simp [hdown]

/-- If the pen was not seen before, all that is found of it is reported. -/
theorem penEvents_eq :
    (({} : PenState).remarks found.pen).filterMap Remark.event? = found.penEvents := by
  unfold penEvents
  cases found.pen with
  | none => rfl
  | some sighting =>
    obtain ⟨beam, tipDown⟩ := sighting
    rw [PenState.events_some]
    cases tipDown <;> rfl

end Findings

end InputBridge
