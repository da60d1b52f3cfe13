import InputBridge.Device.Mouse
import InputBridge.Event.Basic
import Mathlib.Data.Int.ModEq

/-!
# Bounded reports of motion

A report takes the distance to report and cuts it off at a bound; what is cut off stays
pending (`Axis.natAbs_pending_advance`). So a report and what it leaves add up to the
distance, and along any run of movements the reports and what is pending at the end add up
to what was pending at first and all movement since.

The distance is held in 32 bits. `sum_reports_modEq` is the account of a run modulo 2^32,
which always holds; `sum_reports_eq` is the account in whole numbers, as long as no distance
to report leaves the 32 bits (`MouseState.Exact`).
-/

namespace InputBridge

/-! ## The range of a report -/

/-- A bound counts as at least 1, so the range of a report is never empty. -/
theorem toInt_reportBound (bound : Int32) : (reportBound bound).toInt = max 1 bound.toInt := by
  have hone : (1 : Int32).toInt = 1 := rfl
  unfold reportBound
  split
  next hlow =>
    rw [Int32.lt_iff_toInt_lt] at hlow
    omega
  next hhigh =>
    rw [Int32.lt_iff_toInt_lt] at hhigh
    omega

/-- The lower end of the range does not wrap around. -/
theorem toInt_neg_reportBound (bound : Int32) :
    (-reportBound bound).toInt = -max 1 bound.toInt := by
  have hhigh := bound.toInt_lt
  rw [Int32.toInt_neg, toInt_reportBound]
  exact Int.bmod_eq_of_le (by omega) (by omega)

theorem neg_reportBound_le (bound : Int32) : -reportBound bound ≤ reportBound bound := by
  rw [Int32.le_iff_toInt_le, toInt_neg_reportBound, toInt_reportBound]
  omega

/-- A distance is cut off at the ends of the range. -/
theorem toInt_bounded (bound distance : Int32) :
    (bounded (reportBound bound) distance).toInt =
      max (-max 1 bound.toInt) (min distance.toInt (max 1 bound.toInt)) := by
  have hlow := toInt_neg_reportBound bound
  have hhigh := toInt_reportBound bound
  unfold bounded
  simp only [Int32.lt_iff_toInt_lt, hlow, hhigh]
  split
  next => omega
  next => split <;> omega

namespace Axis

/-! ## One report -/

/-- How far the axis is ahead of its reports after a movement, before the next report. -/
def distance (axis : Axis) (delta : Int32) : Int32 := axis.position + delta - axis.reported

theorem distance_zero (axis : Axis) : axis.distance 0 = axis.pending := by
  unfold distance pending
  rw [Int32.add_zero]

theorem toInt_report (axis : Axis) (delta bound : Int32) :
    (axis.advance delta bound).1.toInt =
      max (-max 1 bound.toInt) (min (axis.distance delta).toInt (max 1 bound.toInt)) :=
  toInt_bounded bound (axis.distance delta)

/-- A report takes what it says off the distance, without wrapping around. -/
theorem toInt_pending_advance (axis : Axis) (delta bound : Int32) :
    (axis.advance delta bound).2.pending.toInt =
      (axis.distance delta).toInt - (axis.advance delta bound).1.toInt := by
  have hreport := axis.toInt_report delta bound
  have hlow := (axis.distance delta).le_toInt
  have hhigh := (axis.distance delta).toInt_lt
  have hsub : (axis.advance delta bound).2.pending =
      axis.distance delta - (axis.advance delta bound).1 := by
    show axis.position + delta - (axis.reported + (axis.advance delta bound).1) =
      axis.position + delta - axis.reported - (axis.advance delta bound).1
    rw [Int32.sub_sub]
  rw [hsub, Int32.toInt_sub]
  exact Int.bmod_eq_of_le (by omega) (by omega)

/-- One report brings the distance nearer to 0 by the bound, or all the way. -/
theorem natAbs_pending_advance (axis : Axis) (delta bound : Int32) :
    ((axis.advance delta bound).2.pending.toInt.natAbs : Int) =
      max 0 ((axis.distance delta).toInt.natAbs - max 1 bound.toInt) := by
  rw [axis.toInt_pending_advance, axis.toInt_report]
  omega

/-- The distance is what was pending and the movement, up to a turn of the counter. -/
theorem toInt_distance_modEq (axis : Axis) (delta : Int32) :
    (axis.distance delta).toInt ≡ axis.pending.toInt + delta.toInt [ZMOD 2 ^ 32] := by
  have hsum : axis.distance delta = axis.pending + delta := by
    unfold distance pending
    rw [Int32.sub_eq_add_neg, Int32.sub_eq_add_neg, Int32.add_assoc, Int32.add_comm delta,
      Int32.add_assoc]
  rw [hsum, Int32.toInt_add]
  exact Int.bmod_emod

/-- Without such a turn it is just that. -/
theorem toInt_distance_eq {axis : Axis} {delta : Int32}
    (hlow : -2 ^ 31 ≤ axis.pending.toInt + delta.toInt)
    (hhigh : axis.pending.toInt + delta.toInt < 2 ^ 31) :
    (axis.distance delta).toInt = axis.pending.toInt + delta.toInt := by
  have hmod := axis.toInt_distance_modEq delta
  have hleast := (axis.distance delta).le_toInt
  have hmost := (axis.distance delta).toInt_lt
  unfold Int.ModEq at hmod
  omega

/-! ## Reports without motion -/

/-- The axis after one more report, if it does not move. -/
def drained (bound : Int32) (axis : Axis) : Axis := (axis.advance 0 bound).2

theorem toInt_pending_drained (bound : Int32) (axis : Axis) :
    (axis.drained bound).pending.toInt =
      axis.pending.toInt - (axis.advance 0 bound).1.toInt := by
  rw [← axis.distance_zero]
  exact axis.toInt_pending_advance 0 bound

/-- Each report takes one bound off what is pending, and the last one takes the rest. -/
theorem natAbs_pending_iterate (bound : Int32) (axis : Axis) (count : Nat) :
    (((drained bound)^[count] axis).pending.toInt.natAbs : Int) =
      max 0 (axis.pending.toInt.natAbs - count * max 1 bound.toInt) := by
  induction count with
  | zero => simp
  | succ count ih =>
    have hdrained := natAbs_pending_advance ((drained bound)^[count] axis) 0 bound
    rw [distance_zero] at hdrained
    rw [Function.iterate_succ_apply', drained, hdrained, ih]
    push_cast
    rw [Int.add_mul]
    omega

end Axis

/-! ## Runs of movements -/

/-- A movement along both axes, and the bound on what is reported of it. -/
structure Movement where
  dx : Int32
  dy : Int32
  bound : Int32

/-- The movement along one axis. -/
def Movement.along (movement : Movement) : RelativeAxis → Int32
  | .x => movement.dx
  | .y => movement.dy

/-- The report of one axis. -/
def RelativeAxis.reportIn (axis : RelativeAxis) (report : Int32 × Int32) : Int32 :=
  match axis with
  | .x => report.1
  | .y => report.2

namespace MouseState

/-- What a port knows of one axis. -/
def along (state : MouseState) : RelativeAxis → Axis
  | .x => state.x
  | .y => state.y

/-- Adds one movement after the other. Gives the reports and the state after them. -/
def accumulateAll (state : MouseState) : List Movement → List (Int32 × Int32) × MouseState
  | [] => ([], state)
  | movement :: rest =>
    let (report, after) := state.accumulate movement.dx movement.dy movement.bound
    let (reports, last) := after.accumulateAll rest
    (report :: reports, last)

variable (state : MouseState) (axis : RelativeAxis)

/-- The state after one movement. -/
def moved (movement : Movement) : MouseState :=
  (state.accumulate movement.dx movement.dy movement.bound).2

/-- What is reported of one movement along an axis. -/
def reportOf (movement : Movement) : Int32 :=
  axis.reportIn (state.accumulate movement.dx movement.dy movement.bound).1

theorem along_moved (movement : Movement) :
    (state.moved movement).along axis =
      ((state.along axis).advance (movement.along axis) movement.bound).2 := by
  cases axis <;> rfl

theorem reportOf_eq (movement : Movement) :
    state.reportOf axis movement =
      ((state.along axis).advance (movement.along axis) movement.bound).1 := by
  cases axis <;> rfl

/-- All that was reported along an axis. -/
def reportedBy (reports : List (Int32 × Int32)) : Int :=
  (reports.map fun report => (axis.reportIn report).toInt).sum

/-- All movement along an axis. -/
def movedBy (movements : List Movement) : Int :=
  (movements.map fun movement => (movement.along axis).toInt).sum

/-- The distance to report after `done` and one movement more, in whole numbers. -/
def exactDistance (done : List Movement) (next : Movement) : Int :=
  (state.along axis).pending.toInt + movedBy axis (done ++ [next]) -
    reportedBy axis (state.accumulateAll done).1

/-- No distance to report leaves the 32 bits. -/
def Exact (movements : List Movement) : Prop :=
  ∀ (done rest : List Movement) (next : Movement), movements = done ++ next :: rest →
    -2 ^ 31 ≤ state.exactDistance axis done next ∧ state.exactDistance axis done next < 2 ^ 31

theorem movedBy_cons (movement : Movement) (rest : List Movement) :
    movedBy axis (movement :: rest) = (movement.along axis).toInt + movedBy axis rest := rfl

theorem reportedBy_cons (movement : Movement) (rest : List Movement) :
    reportedBy axis (state.accumulateAll (movement :: rest)).1 =
      (state.reportOf axis movement).toInt +
        reportedBy axis ((state.moved movement).accumulateAll rest).1 := rfl

/-! ## What one report leaves -/

/-- A report and what is left of the distance, which neither goes against. The report keeps
to the bound, and only what is beyond the bound is left. -/
structure FairReport (bound distance report pending : Int) : Prop where
  within : report.natAbs ≤ bound
  forward : 0 < report ↔ 0 < distance
  backward : report < 0 ↔ distance < 0
  whole : report + pending = distance
  left : (pending.natAbs : Int) = max 0 (distance.natAbs - bound)

theorem fairReport_moved (movement : Movement) :
    FairReport (max 1 movement.bound.toInt)
      ((state.along axis).distance (movement.along axis)).toInt
      (state.reportOf axis movement).toInt
      ((state.moved movement).along axis).pending.toInt := by
  have hreport := (state.along axis).toInt_report (movement.along axis) movement.bound
  have hpending := (state.along axis).toInt_pending_advance (movement.along axis) movement.bound
  have hleft := (state.along axis).natAbs_pending_advance (movement.along axis) movement.bound
  rw [reportOf_eq, along_moved]
  refine ⟨?_, ?_, ?_, ?_, hleft⟩ <;> omega

/-! ## The account of a run -/

/-- Up to turns of the counter, the reports of a run and what is pending after it are what
was pending before it and all its movement. -/
theorem sum_reports_modEq (movements : List Movement) :
    reportedBy axis (state.accumulateAll movements).1 +
        ((state.accumulateAll movements).2.along axis).pending.toInt ≡
      (state.along axis).pending.toInt + movedBy axis movements [ZMOD 2 ^ 32] := by
  induction movements generalizing state with
  | nil =>
    show 0 + (state.along axis).pending.toInt ≡ (state.along axis).pending.toInt + 0 [ZMOD _]
    rw [Int.zero_add, Int.add_zero]
  | cons movement rest ih =>
    have hfirst := (state.fairReport_moved axis movement).whole
    have hdistance := (state.along axis).toInt_distance_modEq (movement.along axis)
    calc reportedBy axis (state.accumulateAll (movement :: rest)).1 +
          ((state.accumulateAll (movement :: rest)).2.along axis).pending.toInt
        = (state.reportOf axis movement).toInt +
            (reportedBy axis ((state.moved movement).accumulateAll rest).1 +
              (((state.moved movement).accumulateAll rest).2.along axis).pending.toInt) := by
          rw [reportedBy_cons, Int.add_assoc]
          rfl
      _ ≡ (state.reportOf axis movement).toInt +
            (((state.moved movement).along axis).pending.toInt + movedBy axis rest) [ZMOD 2 ^ 32] :=
          (ih (state.moved movement)).add_left _
      _ = ((state.along axis).distance (movement.along axis)).toInt + movedBy axis rest := by
          rw [← Int.add_assoc, hfirst]
      _ ≡ (state.along axis).pending.toInt + (movement.along axis).toInt + movedBy axis rest
            [ZMOD 2 ^ 32] := hdistance.add_right _
      _ = (state.along axis).pending.toInt + movedBy axis (movement :: rest) := by
          rw [movedBy_cons, Int.add_assoc]

/-- The first distance to report of an exact run, and the run after it. -/
theorem exact_cons {state : MouseState} {axis : RelativeAxis} {movement : Movement}
    {rest : List Movement} (h : state.Exact axis (movement :: rest)) :
    ((state.along axis).distance (movement.along axis)).toInt =
        (state.along axis).pending.toInt + (movement.along axis).toInt ∧
      (state.moved movement).Exact axis rest := by
  have hfirst : state.exactDistance axis [] movement =
      (state.along axis).pending.toInt + (movement.along axis).toInt := by
    show _ + ((movement.along axis).toInt + 0) - 0 = _
    omega
  have hnow := h [] rest movement rfl
  rw [hfirst] at hnow
  have hdistance := Axis.toInt_distance_eq hnow.1 hnow.2
  refine ⟨hdistance, fun done others next hsplit => ?_⟩
  -- What the first report left is what was pending before it in the distances that follow.
  have hlater := h (movement :: done) others next (congrArg (movement :: ·) hsplit)
  have hwhole := (state.fairReport_moved axis movement).whole
  have hsame : state.exactDistance axis (movement :: done) next =
      (state.moved movement).exactDistance axis done next := by
    unfold exactDistance
    rw [List.cons_append, movedBy_cons, reportedBy_cons]
    omega
  rwa [hsame] at hlater

/-- As long as no distance leaves the 32 bits, the account holds in whole numbers. -/
theorem sum_reports_eq {state : MouseState} {axis : RelativeAxis} {movements : List Movement}
    (h : state.Exact axis movements) :
    reportedBy axis (state.accumulateAll movements).1 +
        ((state.accumulateAll movements).2.along axis).pending.toInt =
      (state.along axis).pending.toInt + movedBy axis movements := by
  induction movements generalizing state with
  | nil =>
    show 0 + (state.along axis).pending.toInt = (state.along axis).pending.toInt + 0
    rw [Int.zero_add, Int.add_zero]
  | cons movement rest ih =>
    obtain ⟨hdistance, hrest⟩ := exact_cons h
    have hfirst := (state.fairReport_moved axis movement).whole
    have hlast : (state.accumulateAll (movement :: rest)).2 =
        ((state.moved movement).accumulateAll rest).2 := rfl
    have hlater := ih hrest
    rw [reportedBy_cons, movedBy_cons, hlast]
    omega

/-- Without motion, the run of an axis is that of its reports. -/
theorem along_accumulateAll_still (bound : Int32) (count : Nat) :
    (state.accumulateAll (List.replicate count ⟨0, 0, bound⟩)).2.along axis =
      (Axis.drained bound)^[count] (state.along axis) := by
  induction count generalizing state with
  | zero => rfl
  | succ count ih =>
    have hmoved : (state.moved ⟨0, 0, bound⟩).along axis = (state.along axis).drained bound := by
      rw [along_moved]
      cases axis <;> rfl
    rw [Function.iterate_succ_apply, ← hmoved, ← ih]
    rfl

/-- Bounded reports lose nothing. Along either axis, the range of every report is in order and
the report is fair; the reports of a run and what is pending after it are what was pending
before it and all its movement, modulo 2^32 and, as long as no distance to report leaves the
32 bits, in whole numbers; and without motion, pending motion is gone after just so many
reports as its bounds cover it. -/
theorem reports_lose_nothing :
    (∀ movement : Movement,
      let range := reportBound movement.bound
      ((-range).toInt = -range.toInt ∧ -range ≤ range) ∧
        FairReport (max 1 movement.bound.toInt)
          ((state.along axis).distance (movement.along axis)).toInt
          (state.reportOf axis movement).toInt
          ((state.moved movement).along axis).pending.toInt) ∧
    (∀ movements : List Movement,
      let run := state.accumulateAll movements
      let accounted := reportedBy axis run.1 + (run.2.along axis).pending.toInt
      let owed := (state.along axis).pending.toInt + movedBy axis movements
      accounted ≡ owed [ZMOD 2 ^ 32] ∧ (state.Exact axis movements → accounted = owed)) ∧
    ∀ (bound : Int32) (count : Nat),
      ((state.accumulateAll (List.replicate count ⟨0, 0, bound⟩)).2.along axis).pending = 0 ↔
        ((state.along axis).pending.toInt.natAbs : Int) ≤ count * max 1 bound.toInt := by
  refine ⟨fun movement => ⟨⟨?_, neg_reportBound_le _⟩, state.fairReport_moved axis movement⟩,
    fun movements => ⟨state.sum_reports_modEq axis movements, sum_reports_eq⟩,
    fun bound count => ?_⟩
  · rw [toInt_neg_reportBound, toInt_reportBound]
  · have hzero : (0 : Int32).toInt = 0 := rfl
    have hleft := Axis.natAbs_pending_iterate bound (state.along axis) count
    rw [along_accumulateAll_still, ← Int32.toInt_inj, hzero]
    omega

end MouseState

end InputBridge
