/-!
# Motion along an axis

The counters of a mouse run freely and wrap. An `Axis` adds up how far one of
them went and reports the distance in bounded steps. Only the report is bounded:
what a bound cuts off stays pending and is reported later, so a large jump is
spread over several reports and no motion is lost.
-/

namespace InputBridge

/-- Where an axis is, and how much of that was reported. Both wrap at 32 bits. -/
structure Axis where
  position : Int32 := 0
  reported : Int32 := 0
  deriving DecidableEq

/-- The smallest bound on a report; anything below it counts as this. -/
def reportBound (bound : Int32) : Int32 := if bound < 1 then 1 else bound

/-- `distance`, or the end of the range from `-bound` to `bound` that it lies beyond. -/
def bounded (bound distance : Int32) : Int32 :=
  if distance < -bound then -bound else if bound < distance then bound else distance

namespace Axis

/-- Motion not yet reported. -/
def pending (axis : Axis) : Int32 := axis.position - axis.reported

/-- Moves by `delta` and reports as much as `bound` allows. -/
def advance (axis : Axis) (delta bound : Int32) : Int32 × Axis :=
  let moved := { axis with position := axis.position + delta }
  let report := bounded (reportBound bound) moved.pending
  (report, { moved with reported := moved.reported + report })

end Axis

end InputBridge
