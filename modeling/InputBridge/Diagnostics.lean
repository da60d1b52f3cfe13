import InputBridge.Config.Basic
import InputBridge.Device.Keyboard
import InputBridge.Device.Lightpen
import InputBridge.Device.Mouse
import InputBridge.Event.Writer

/-!
# Diagnostics

A one-shot check: set up every device, read it once, and print what was seen. A
device that fails is printed and counted and does not keep the next from being
checked; only a channel that cannot be brought up, or an output that cannot be
written, ends the check.
-/

namespace InputBridge.Diagnostics

/-- What the check puts out: lines of its report, and notes for the log. -/
inductive Output where
  | line (text : String)
  | note (note : Note)

/-- Prints one line. -/
def print (text : String) : Program Output Unit := Program.remark (.line text)

/-- The labels of the keys that a snapshot holds in one row. -/
def heldLabels (snapshot : Snapshot) (row : Nat) : List String :=
  ((List.range columnCount).filter (snapshot.isPressed row)).filterMap fun column =>
    (KeyMap.standard.get? row column).map Key.label

/-- The line of one row: its bits, and the keys held. -/
def rowLine (snapshot : Snapshot) (row : Nat) : String :=
  let held := heldLabels snapshot row
  "  row " ++ row.repr ++ ": " ++ Text.binary columnCount (snapshot.rowBits row).toNat ++ "  " ++
    (if held = [] then "-" else " ".intercalate held)

/-- Checks the keyboard. -/
def checkKeyboard (map : RegisterMap) : Program Output Bool := do
  let keyboard := Keyboard.new map .standard
  match ← (do keyboard.setUp; keyboard.scan : Attempt Output Snapshot).run with
  | .error cause =>
    print ("keyboard: FAILED (" ++ cause.message ++ ")")
    return false
  | .ok snapshot =>
    print "keyboard: ok"
    Program.remarks ((List.range rowCount).map fun row => .line (rowLine snapshot row))
    return true

/-- The names of the buttons that are down. -/
def buttonNames (buttons : UInt8) : String :=
  let down := [(leftBit, "left"), (rightBit, "right"), (middleBit, "middle")].filterMap
    fun (bit, name) => if buttons &&& bit = 0 then none else some name
  if down = [] then "none" else "+".intercalate down

/-- Checks the buttons of ports, one after the other. -/
def checkPorts (mouse : Mouse) : List Port → Program Output Bool
  | [] => return true
  | port :: rest => do
    let head := "mouse port " ++ port.index.repr ++ ": "
    match ← (mouse.readButtons port).run with
    | .ok buttons =>
      print (head ++ "ok, buttons " ++ buttonNames buttons)
      checkPorts mouse rest
    | .error cause =>
      print (head ++ "FAILED (" ++ cause.message ++ ")")
      let _ ← checkPorts mouse rest
      return false

/-- Checks the mouse. -/
def checkMouse (config : Config) (map : RegisterMap) : Program Output Bool := do
  let mouse := Mouse.new map config.mousePorts config.maxMouseDelta
  match ← mouse.setUp.run with
  | .error cause =>
    print ("mouse: FAILED (" ++ cause.message ++ ")")
    return false
  | .ok () => checkPorts mouse config.mousePorts

/-- The line of a pen that is seen. -/
def sightingLine (sighting : PenSighting) : String :=
  "lightpen: detected at (" ++ sighting.beam.x.toNat.repr ++ ", " ++
    sighting.beam.y.toNat.repr ++ ") of " ++ screenWidth.repr ++ "x" ++ screenHeight.repr ++
    ", tip " ++ (if sighting.tipDown then "down" else "up")

/-- Checks the lightpen. A latch that cannot be enabled is no failure. -/
def checkLightpen (map : RegisterMap) : Program Output Bool := do
  let pen := Lightpen.new map
  let enabled ← pen.setUp.mapRemarks .note
  if !enabled then print "lightpen: latch not enabled, continuing"
  match ← pen.sense.run with
  | .error cause =>
    print ("lightpen: FAILED (" ++ cause.message ++ ")")
    return false
  | .ok none =>
    print "lightpen: not detected"
    return true
  | .ok (some sighting) =>
    print (sightingLine sighting)
    return true

/-- Counts a failure if an enabled check did not pass. -/
def countIf (enabled : Bool) (check : Program Output Bool) : Program Output Nat :=
  if enabled then do
    return if ← check then 0 else 1
  else return 0

/-- Checks every device that a configuration enables. Gives how many failed. -/
def checkAll (config : Config) : Program Output Nat := do
  let map := RegisterMap.forChipset config.chipset
  print ("chipset: " ++ map.chipset.name)
  let keyboard ← countIf config.keyboard (checkKeyboard map)
  let mouse ← countIf config.mouse (checkMouse config map)
  let lightpen ← countIf config.lightpen (checkLightpen map)
  return keyboard + mouse + lightpen

/-- What ended a check. -/
inductive Stop where
  | connect (cause : BusError)
  | output (cause : WriteError)
  deriving DecidableEq, Repr

/-- The texts that say what ended a check, outermost first. -/
def Stop.chain : Stop → List String
  | .connect cause => ["connecting to the register channel", cause.message]
  | .output cause => [cause.message]

/-- Takes output: lines go to the writer, notes to the log. -/
def receive : Output → Writer × Array Note → Except Stop Unit × (Writer × Array Note)
  | .note note, (writer, notes) => (.ok (), (writer, notes.push note))
  | .line text, (writer, notes) =>
    match writer.write (text ++ "\n") with
    | (.ok (), writer) => (.ok (), (writer, notes))
    | (.error cause, writer) => (.error (.output cause), (writer, notes))

/-- What a check leaves. -/
structure Report (β : Type) where
  /-- The number of devices that failed, if the check went to its end. -/
  failed : Except Stop Nat
  bus : β
  writer : Writer
  notes : List Note

/-- Checks the devices on a bus and prints to a writer. -/
def run {β : Type} [RegisterBus β] (config : Config) (bus : β) (writer : Writer) : Report β :=
  match RegisterBus.connect bus with
  | (.error cause, bus) => ⟨.error (.connect cause), bus, writer, []⟩
  | (.ok (), bus) =>
    match (checkAll config).feed receive bus (writer, #[]) with
    | (failed, bus, (writer, notes)) => ⟨failed, bus, writer, notes.toList⟩

end InputBridge.Diagnostics
