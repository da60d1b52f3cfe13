import InputBridge.Proofs.Device.BoundedMotion
import InputBridge.Proofs.Device.CalmPolls
import Mathlib.Algebra.Order.Floor.Div

/-!
# Devices at rest

A device rests if it senses the same as in its last poll. A pen at rest has nothing to say
but where it is (`PenState.Rests.events`), and a port at rest has no edges of buttons.

Its mouse does not move any more, and yet motion may be pending. It is reported one bound at
a time: each report takes the bound off what is pending, and the last one takes the rest
(`Axis.natAbs_pending_iterate`). So there are as many reports as bounds go into the pending
motion, rounded up, and they sum up to it (`Axis.drains`).
-/

namespace InputBridge

open MemoryBus (SameOutside)

/-! ## Pending motion -/

namespace Axis

variable {bound : Int32} (hbound : 0 < bound) (axis : Axis)

include hbound

theorem toInt_report_still :
    (axis.advance 0 bound).1.toInt =
      max (-bound.toInt) (min axis.pending.toInt bound.toInt) := by
  have hpositive : 0 < bound.toInt := Int32.lt_iff_toInt_lt.mp hbound
  have hreport := axis.toInt_report 0 bound
  rw [distance_zero] at hreport
  omega

/-- Something is reported as long as something is pending. -/
theorem report_eq_zero_iff : (axis.advance 0 bound).1 = 0 ↔ axis.pending.toInt = 0 := by
  have hpositive : 0 < bound.toInt := Int32.lt_iff_toInt_lt.mp hbound
  have hzero : (0 : Int32).toInt = 0 := rfl
  rw [← Int32.toInt_inj, axis.toInt_report_still hbound]
  omega

omit hbound in
/-- The reports so far and what is still pending sum up to what was pending at first. -/
theorem sum_reports (count : Nat) :
    (((List.range count).flatMap fun n =>
        nonzero (((drained bound)^[n] axis).advance 0 bound).1).map Int32.toInt).sum +
      ((drained bound)^[count] axis).pending.toInt = axis.pending.toInt := by
  induction count with
  | zero => simp
  | succ count ih =>
    rw [List.range_succ, List.flatMap_append, List.map_append, List.sum_append,
      List.flatMap_singleton, sum_nonzero, Function.iterate_succ_apply',
      toInt_pending_drained, ← ih]
    omega

/-- What is pending is reported in as many reports as bounds go into it, rounded up, and
nothing is reported after them. -/
theorem drains :
    let report (n : Nat) := (((drained bound)^[n] axis).advance 0 bound).1
    let count := axis.pending.toInt.natAbs ⌈/⌉ bound.toInt.toNat
    (∀ n, (nonzero (report n)).length = if n < count then 1 else 0) ∧
      (((List.range count).flatMap fun n => nonzero (report n)).map Int32.toInt).sum =
        axis.pending.toInt := by
  intro report count
  have hpositive : 0 < bound.toInt := Int32.lt_iff_toInt_lt.mp hbound
  have hcount : ∀ n, count ≤ n ↔ ((drained bound)^[n] axis).pending.toInt = 0 := by
    intro n
    have hleft := natAbs_pending_iterate bound axis n
    have hbounds : (n * max 1 bound.toInt : Int) = (bound.toInt.toNat * n : Nat) := by
      rw [max_eq_right hpositive, Nat.cast_mul, Int.toNat_of_nonneg hpositive.le, Int.mul_comm]
    rw [ceilDiv_le_iff_le_mul (by omega)]
    omega
  refine ⟨fun n => ?_, ?_⟩
  · unfold nonzero
    by_cases h : n < count
    · have hsome : report n ≠ 0 := fun hnone =>
        Nat.not_le.mpr h ((hcount n).mpr ((report_eq_zero_iff hbound _).mp hnone))
      rw [if_pos h, if_neg hsome]
      rfl
    · have hnone : report n = 0 :=
        (report_eq_zero_iff hbound _).mpr ((hcount n).mp (Nat.not_lt.mp h))
      rw [if_neg h, if_pos hnone]
      rfl
  · have hsum := @sum_reports bound axis count
    rwa [(hcount count).mp (Nat.le_refl count), Int.add_zero] at hsum

end Axis

/-! ## Ports -/

/-- Is this an edge, of a key or of a button? -/
def Event.isEdge : Event → Bool
  | .key .. | .button .. => true
  | _ => false

namespace MouseState

/-- The mouse of a port rests: its counters and buttons are as in the last visit. -/
structure Rests (state : MouseState) (lines : PortLines) (bus : MemoryBus) : Prop where
  latched : state.latched = some ((bus.steady lines.counters).toUInt8,
    (bus.steady lines.counters >>> 8).toUInt8)
  buttons : state.buttons = bus.buttonsAt lines

/-- The state after so many more visits, if the mouse rests. -/
def afterRest (state : MouseState) (bound : Int32) (count : Nat) : MouseState :=
  { state with
    x := (Axis.drained bound)^[count] state.x
    y := (Axis.drained bound)^[count] state.y }

theorem along_afterRest (state : MouseState) (bound : Int32) (count : Nat) (axis : RelativeAxis) :
    (state.afterRest bound count).along axis = (Axis.drained bound)^[count] (state.along axis) := by
  cases axis <;> rfl

theorem afterRest_succ (state : MouseState) (bound : Int32) (count : Nat) :
    (state.afterRest bound 1).afterRest bound count = state.afterRest bound (count + 1) := rfl

variable {state : MouseState} {lines : PortLines} {bus : MemoryBus}

/-- After a visit a mouse rests until something moves. -/
theorem rests_visit (state : MouseState) (port : Port) (lines : PortLines) (bound : Int32)
    (bus : MemoryBus) : (state.visit port lines bound bus).2.Rests lines bus := ⟨rfl, rfl⟩

theorem Rests.congr {bus' : MemoryBus} (h : state.Rests lines bus)
    (hsame : SameOutside [] bus bus') : state.Rests lines bus' := by
  refine ⟨?_, ?_⟩
  · rw [h.latched, hsame.steady_eq]
  · rw [h.buttons, MemoryBus.buttonsAt_congr (hsame.steady_eq _) (hsame.steady_eq _)]

/-- Counters that did not turn make no movement. -/
theorem Rests.count_eq (h : state.Rests lines bus) (bound : Int32) :
    state.count (bus.steady lines.counters) bound =
      (((state.x.advance 0 bound).1, (state.y.advance 0 bound).1), state.afterRest bound 1) := by
  unfold MouseState.count latch
  rw [h.latched]
  dsimp only
  rw [UInt8.sub_self, UInt8.sub_self, ← h.latched]
  rfl

/-- A visit of a port at rest: no button changes, and each axis reports what it may of the
pending motion. -/
theorem Rests.visit_eq (h : state.Rests lines bus) (port : Port) (bound : Int32) :
    state.visit port lines bound bus =
      (Mouse.motionRemarks port ((state.x.advance 0 bound).1, (state.y.advance 0 bound).1)
        (state.afterRest bound 1).pending, state.afterRest bound 1) := by
  have hedges : buttonEdges 0 (bus.buttonsAt lines) = [] := rfl
  unfold visit
  dsimp only
  rw [h.count_eq, ← h.buttons, UInt8.xor_self, h.buttons, hedges, List.map_nil, List.append_nil,
    ← h.buttons]
  rfl

end MouseState

/-- What is said of motion has no edges. -/
theorem not_isEdge_motionRemarks (port : Port) (report pending : Int32 × Int32) :
    ∀ event ∈ (Mouse.motionRemarks port report pending).filterMap Remark.event?,
      event.isEdge = false := by
  intro event hevent
  obtain ⟨remark, hremark, hsome⟩ := List.mem_filterMap.mp hevent
  unfold Mouse.motionRemarks at hremark
  rcases List.mem_append.mp hremark with hmoves | hnote
  · rcases List.mem_append.mp hmoves with hx | hy
    · split at hx
      · cases hx
      · rw [List.mem_singleton.mp hx] at hsome
        rw [← Option.some.inj hsome]
        rfl
    · split at hy
      · cases hy
      · rw [List.mem_singleton.mp hy] at hsome
        rw [← Option.some.inj hsome]
        rfl
  · split at hnote
    · cases hnote
    · rw [List.mem_singleton.mp hnote] at hsome
      cases hsome

/-- What is said of a visit of a port at rest: no edges, and the moves that the axes report. -/
theorem MouseState.Rests.remarks {state : MouseState} {lines : PortLines} {bus : MemoryBus}
    (h : state.Rests lines bus) (port : Port) (bound : Int32) :
    (∀ event ∈ (state.visit port lines bound bus).1.filterMap Remark.event?,
        event.isEdge = false) ∧
      ∀ axis, (state.visit port lines bound bus).1.filterMap (moveAlong axis) =
        nonzero ((state.along axis).advance 0 bound).1 := by
  rw [h.visit_eq]
  refine ⟨fun event => not_isEdge_motionRemarks _ _ _ event, fun axis => ?_⟩
  cases axis with
  | x => exact (motionRemarks_moves ..).1
  | y => exact (motionRemarks_moves ..).2

/-! ## The pen -/

namespace PenState

/-- The pen rests: it is seen, or not seen, as in the last poll. -/
def Rests (state : PenState) : Option PenSighting → Prop
  | none => state.detected = false
  | some ⟨beam, tipDown⟩ => state = ⟨.active, beam.x, beam.y, tipDown⟩

/-- The events of a pen that rests: where it is, if it is seen. -/
def restEvents : Option PenSighting → List Event
  | none => []
  | some ⟨beam, tipDown⟩ => placeEvents beam tipDown

/-- After a poll the pen rests until something changes. -/
theorem rests_next (state : PenState) (seen : Option PenSighting) :
    (state.next seen).Rests seen := by
  cases seen with
  | none =>
    show (if state.detected then { state with phase := .idle, button := false }
      else state).detected = false
    by_cases hdetected : state.detected = true
    · rw [if_pos hdetected]
      rfl
    · rw [if_neg hdetected]
      exact Bool.eq_false_iff.mpr hdetected
  | some sighting => rfl

theorem Rests.events {state : PenState} {seen : Option PenSighting} (h : state.Rests seen) :
    (state.remarks seen).filterMap Remark.event? = restEvents seen := by
  cases seen with
  | none =>
    have hlost : state.detected = false := h
    unfold remarks
    rw [hlost]
    rfl
  | some sighting =>
    obtain rfl : state = ⟨.active, sighting.beam.x, sighting.beam.y, sighting.tipDown⟩ := h
    rw [events_some, if_pos rfl, List.append_nil]
    rfl

theorem not_isEdge_restEvents : ∀ seen, ∀ event ∈ restEvents seen, event.isEdge = false := by
  intro seen event hevent
  cases seen with
  | none => cases hevent
  | some sighting =>
    simp only [restEvents, placeEvents, List.mem_cons, List.not_mem_nil, or_false] at hevent
    rcases hevent with rfl | rfl | rfl <;> rfl

end PenState

end InputBridge
