import InputBridge.Bus.Basic
import InputBridge.Device.Basic

/-!
# Errors of the bridge

Everything that can keep a session or a poller from doing what it was asked for.
An error wraps the channel error it comes from, if there is one; `source` hands
that out again.
-/

namespace InputBridge

/-- An error of a session or of its poller. -/
inductive BridgeError where
  | alreadyRunning
  | noDevices
  /-- The session went down with an earlier worker. -/
  | sessionLost
  | bus (cause : BusError)
  | deviceSetUp (device : Device) (cause : BusError)
  /-- The worker could not be started. -/
  | spawn (reason : String)
  | workerPanicked
  | config (reason : String)
  deriving DecidableEq, Repr

namespace BridgeError

/-- The text of an error. -/
def message : BridgeError → String
  | .alreadyRunning => "input poller is already running"
  | .noDevices => "no input device could be initialized"
  | .sessionLost => "input session was lost to an earlier worker failure"
  | .bus cause => "register bus error: " ++ cause.message
  | .deviceSetUp device cause => device.name ++ " initialization failed: " ++ cause.message
  | .spawn reason => "failed to spawn poller thread: " ++ reason
  | .workerPanicked => "poller thread panicked"
  | .config reason => "invalid configuration: " ++ reason

/-- The text of the cause that an error wraps. -/
def source : BridgeError → Option String
  | .bus cause | .deviceSetUp _ cause => some cause.message
  | .spawn reason => some reason
  | _ => none

end BridgeError

end InputBridge
