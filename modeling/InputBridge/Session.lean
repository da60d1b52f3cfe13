import InputBridge.Config.Basic
import InputBridge.Device.Keyboard
import InputBridge.Device.Lightpen
import InputBridge.Device.Mouse

/-!
# Sessions

A session owns a bus, a sink and the devices in use, and runs one tick at a time:
keyboard, mouse, lightpen. Each device's events form a group of their own, and a
device that fails to scan is noted and tried again on the next tick.

What a tick does to the bus and what it says is one register program
(`Devices.scan`), so the sink has no part in it; `Session.tick` runs the program,
delivers what was said, and brings the counters up to date.
-/

namespace InputBridge

/-! ## The devices of a session -/

/-- The devices in use. -/
structure Devices where
  keyboard : Option Keyboard
  mouse : Option Mouse
  lightpen : Option Lightpen

namespace Devices

/-- The devices that a configuration asks for. A mouse needs a port. -/
def ofConfig (config : Config) : Devices :=
  let map := RegisterMap.forChipset config.chipset
  { keyboard := if config.keyboard then some (.new map .standard) else none
    mouse :=
      if config.mouse && !config.mousePorts.isEmpty then
        some (.new map config.mousePorts config.maxMouseDelta)
      else none
    lightpen := if config.lightpen then some (.new map) else none }

/-- Which devices are in use. -/
def inUse (devices : Devices) : PerDevice Bool :=
  ⟨devices.keyboard.isSome, devices.mouse.isSome, devices.lightpen.isSome⟩

/-- The devices in use, in scan order. -/
def active (devices : Devices) : List Device := Device.all.filter devices.inUse.get

/-- Sets up a device that is in use. If that fails, it is noted and no longer in use. -/
def keepIfSetUp {δ : Type} (device : Device) (setUp : δ → Attempt Note Unit) :
    Option δ → Program Note (Option δ)
  | none => return none
  | some state => do
    match ← (setUp state).run with
    | .ok () => return some state
    | .error cause =>
      Program.remark (.deviceDisabled device cause)
      return none

/-- Sets up every device in use. A lightpen stays in use even if its latch could
not be enabled. -/
def setUp (devices : Devices) : Program Note Devices := do
  let keyboard ← keepIfSetUp .keyboard Keyboard.setUp devices.keyboard
  let mouse ← keepIfSetUp .mouse Mouse.setUp devices.mouse
  match devices.lightpen with
  | none => return { devices with keyboard, mouse }
  | some pen =>
    let _ ← pen.setUp
    return { devices with keyboard, mouse }

/-- Polls a device that is in use as one group, and notes it if that failed. Gives
the device after it, and whether it failed. -/
def scanDevice {δ ρ : Type} (device : Device)
    (poll : δ → Program Remark (Except BusError ρ × δ)) :
    Option δ → Program Signal (Option δ × Bool)
  | none => return (none, false)
  | some state => do
    let (result, state) ← (poll state).grouped device
    match result with
    | .ok _ => return (some state, false)
    | .error cause =>
      Program.remark (.note (.scanFailed device cause))
      return (some state, true)

/-- One tick of the devices in use. Gives the devices after it, and which failed. -/
def scan (devices : Devices) : Program Signal (Devices × PerDevice Bool) := do
  let (keyboard, keyboardFailed) ← scanDevice .keyboard Keyboard.poll devices.keyboard
  let (mouse, mouseFailed) ← scanDevice .mouse Mouse.poll devices.mouse
  let (lightpen, lightpenFailed) ← scanDevice .lightpen Lightpen.poll devices.lightpen
  return (⟨keyboard, mouse, lightpen⟩, ⟨keyboardFailed, mouseFailed, lightpenFailed⟩)

end Devices

/-! ## Counters -/

/-- What a session has counted over its life. The counters have no bound: what a counter of
64 bits does after its greatest value is left out. -/
structure Stats where
  ticks : Nat := 0
  /-- Events that the sink took, syncs included. -/
  delivered : Nat := 0
  /-- Events that the sink rejected. -/
  dropped : Nat := 0
  /-- Ticks in which a device failed to scan. -/
  failures : PerDevice Nat := .replicate 0
  deriving DecidableEq

namespace Stats

/-- Failed scans of all devices together. -/
def totalFailures (stats : Stats) : Nat := stats.failures.toList.foldl (· + ·) 0

/-- The counters after one more tick. -/
def afterTick {σ : Type} (stats : Stats) (delivery : Delivery σ) (failed : PerDevice Bool) :
    Stats where
  ticks := stats.ticks + 1
  delivered := stats.delivered + delivery.delivered
  dropped := stats.dropped + delivery.dropped
  failures := stats.failures.zipWith (fun count failed => count + failed.toNat) failed

end Stats

/-! ## Sessions -/

/-- A bus, a sink, and the devices between them. -/
structure Session (β σ : Type) where
  config : Config
  bus : β
  sink : σ
  devices : Devices
  stats : Stats := {}
  /-- Are the devices set up? -/
  ready : Bool := false

namespace Session

variable {β σ : Type}

/-- A session that has not touched the bus yet. -/
def new (bus : β) (sink : σ) (config : Config) : Session β σ :=
  { config, bus, sink, devices := .ofConfig config }

/-- Validates the configuration, brings the channel up and sets up the devices,
unless that was done before. It fails if the configuration is not valid, if the
channel stays down, or if no device is left. -/
def start [RegisterBus β] (session : Session β σ) :
    Logged (Except BridgeError Unit × Session β σ) :=
  if session.ready then ⟨(.ok (), session), []⟩
  else
    match session.config.validate with
    | .error problem => ⟨(.error (.config problem.message), session), []⟩
    | .ok () =>
      match RegisterBus.connect session.bus with
      | (.error cause, bus) => ⟨(.error (.bus cause), { session with bus }), []⟩
      | (.ok (), bus) =>
        let ran := session.devices.setUp.run bus
        let session := { session with bus := ran.bus, devices := ran.value }
        if session.devices.active = [] then ⟨(.error .noDevices, session), ran.remarks⟩
        else
          ⟨(.ok (), { session with ready := true }),
            ran.remarks ++ [.devicesReady session.devices.inUse]⟩

/-- Everything that the next tick says, in order. -/
def signals [RegisterBus β] (session : Session β σ) : List Signal :=
  (session.devices.scan.run session.bus).remarks

/-- The events that the next tick attempts to send, in order. -/
def attempts [RegisterBus β] (session : Session β σ) : List Event :=
  session.signals.filterMap Signal.event?

/-- Runs one tick. -/
def tick [RegisterBus β] [EventSink σ] (session : Session β σ) : Logged (Session β σ) :=
  let ran := session.devices.scan.run session.bus
  let delivery := deliver ran.remarks session.sink
  ⟨{ session with
      bus := ran.bus
      sink := delivery.sink
      devices := ran.value.1
      stats := session.stats.afterTick delivery ran.value.2 },
    delivery.notes⟩

/-- How a tick ended that could be cut off. -/
inductive TickEnd (β σ : Type) where
  /-- The tick went to its end, with so many accesses still allowed. -/
  | whole (session : Session β σ) (allowance : Option Nat)
  /-- The tick was cut off; the bus and the sink are as they were then. -/
  | cut (bus : β) (sink : σ)

/-- Runs one tick that may make only `allowance` accesses (any number for `none`)
and is cut off at the next one. What was said before that is delivered. -/
def tickWithin [RegisterBus β] [EventSink σ] (allowance : Option Nat) (session : Session β σ) :
    Logged (TickEnd β σ) :=
  let ran := session.devices.scan.runWithin allowance session.bus
  let delivery := deliver ran.remarks session.sink
  match ran.finished with
  | none => ⟨.cut ran.bus delivery.sink, delivery.notes⟩
  | some ((devices, failed), allowance) =>
    ⟨.whole { session with
        bus := ran.bus
        sink := delivery.sink
        devices
        stats := session.stats.afterTick delivery failed } allowance,
      delivery.notes⟩

/-- A tick that is not limited is a tick. -/
theorem tickWithin_none [RegisterBus β] [EventSink σ] (session : Session β σ) :
    session.tickWithin none = ⟨.whole session.tick.value none, session.tick.notes⟩ := by
  simp [tickWithin, tick, Program.runWithin_none]

end Session

end InputBridge
