import InputBridge.Device.Mouse
import Mathlib.Data.Int.ModEq

/-!
# The motion of a mouse

The counters show where a mouse is modulo 256, and only when a read succeeds.
As long as the mouse moves by -128 to 127 along each axis from one successful
read to the next, nothing else is needed to follow it:

* `Follows path` is what a port knows after successful reads at the spots of
  `path`: the bytes of the last spot, and per axis how far the path leads and how
  much of that was reported;
* `Follows.count` is one more successful read;
* `Axis.Sums.sum_add_pending` is why a bound on reports loses nothing.
-/

namespace InputBridge

/-! ## Places and what the counters show of them -/

/-- Where a mouse is, in counts along each axis. -/
structure Spot where
  x : Int
  y : Int
  deriving DecidableEq

namespace Spot

/-- The word of the counters: both coordinates modulo 256, the vertical one in the high byte. -/
def counters (spot : Spot) : UInt16 :=
  UInt16.ofNat ((spot.y % 256).toNat * 256 + (spot.x % 256).toNat)

/-- A step that the counters can follow. -/
def Near (earlier later : Spot) : Prop :=
  (-128 ≤ later.x - earlier.x ∧ later.x - earlier.x ≤ 127) ∧
    (-128 ≤ later.y - earlier.y ∧ later.y - earlier.y ≤ 127)

instance (earlier later : Spot) : Decidable (Near earlier later) :=
  inferInstanceAs (Decidable ((_ ∧ _) ∧ (_ ∧ _)))

theorem counters_low (spot : Spot) : spot.counters.toUInt8 = UInt8.ofInt spot.x := by
  unfold counters
  apply UInt8.toNat_inj.mp
  simp only [UInt16.toUInt8_ofNat', UInt8.toNat_ofNat', UInt8.ofInt]
  omega

theorem counters_high (spot : Spot) : (spot.counters >>> 8).toUInt8 = UInt8.ofInt spot.y := by
  unfold counters
  apply UInt8.toNat_inj.mp
  rw [UInt16.toNat_toUInt8, UInt16.toNat_shiftRight, UInt16.toNat_ofNat', UInt8.ofInt,
    UInt8.toNat_ofNat']
  show (_ >>> 8) % _ = _
  rw [Nat.shiftRight_eq_div_pow]
  omega

end Spot

/-- A small step of a coordinate is what the wrapped difference of its two bytes says. -/
theorem toInt_sub_ofInt {earlier later : Int} (h : -128 ≤ later - earlier ∧ later - earlier ≤ 127) :
    (UInt8.ofInt later - UInt8.ofInt earlier).toInt8.toInt = later - earlier := by
  have hsub : UInt8.ofInt later - UInt8.ofInt earlier = UInt8.ofInt (later - earlier) := by
    rw [Int.sub_eq_add_neg, UInt8.ofInt_add, UInt8.ofInt_neg, UInt8.sub_eq_add_neg]
  -- The step fits into a signed byte, so reading the wrapped difference as one gives it back.
  rw [hsub, UInt8.ofInt, UInt8.toInt8_ofNat', Int8.toInt_ofNat', Int.toNat_of_nonneg (by omega)]
  exact (Int.emod_bmod _ 256).trans (Int.bmod_eq_of_le (m := 256) (by omega) (by omega))

/-! ## What a port knows of its mouse -/

/-- How far a path leads along one axis, from its first spot to its last. -/
def travelled (coordinate : Spot → Int) (path : List Spot) : Int :=
  match path.head?, path.getLast? with
  | some first, some last => coordinate last - coordinate first
  | _, _ => 0

/-- One more spot adds the step from the last one, if there was one. -/
theorem travelled_concat (coordinate : Spot → Int) (path : List Spot) (next : Spot) :
    travelled coordinate (path ++ [next]) = travelled coordinate path +
      (path.getLast?.map fun last => coordinate next - coordinate last).getD 0 := by
  cases path with
  | nil => simp [travelled]
  | cons first rest =>
    simp only [travelled, List.getLast?_concat, List.cons_append, List.head?_cons,
      List.getLast?_cons, Option.map_some, Option.getD_some]
    omega

/-- An axis that went `distance` and attempted to report `moves`. -/
structure Axis.Sums (axis : Axis) (distance : Int) (moves : List Int32) : Prop where
  position : axis.position = Int32.ofInt distance
  reported : axis.reported = Int32.ofInt (moves.map Int32.toInt).sum

/-- A report is a move, unless it is 0. -/
def nonzero (report : Int32) : List Int32 := if report = 0 then [] else [report]

theorem sum_nonzero (report : Int32) : ((nonzero report).map Int32.toInt).sum = report.toInt := by
  unfold nonzero
  split
  next h => rw [h]; rfl
  next => simp

/-- Whatever the bound leaves pending, position and reports are both accounted for. -/
theorem Axis.Sums.advance {axis : Axis} {distance : Int} {moves : List Int32}
    (h : axis.Sums distance moves) (delta bound : Int32) :
    (axis.advance delta bound).2.Sums (distance + delta.toInt)
      (moves ++ nonzero (axis.advance delta bound).1) where
  position := by
    show axis.position + delta = _
    rw [h.position, Int32.ofInt_add, Int32.ofInt_toInt]
  reported := by
    show axis.reported + (axis.advance delta bound).1 = _
    rw [h.reported, List.map_append, List.sum_append, sum_nonzero, Int32.ofInt_add,
      Int32.ofInt_toInt]

/-- What is pending is what was travelled and not yet reported. -/
theorem Axis.Sums.sum_add_pending {axis : Axis} {distance : Int} {moves : List Int32}
    (h : axis.Sums distance moves) :
    (moves.map Int32.toInt).sum + axis.pending.toInt ≡ distance [ZMOD 2 ^ 32] := by
  -- Pending is the wrapped difference of the two sums, whatever the bound made of them.
  have hpending : axis.pending.toInt ≡ distance - (moves.map Int32.toInt).sum [ZMOD 2 ^ 32] := by
    unfold Axis.pending
    rw [h.position, h.reported, ← Int32.ofInt_sub, Int32.toInt_ofInt]
    exact Int.bmod_emod
  have hsum := hpending.add_left (moves.map Int32.toInt).sum
  rwa [add_sub_cancel] at hsum

theorem Axis.Sums.position_modEq {axis : Axis} {distance : Int} {moves : List Int32}
    (h : axis.Sums distance moves) : axis.position.toInt ≡ distance [ZMOD 2 ^ 32] := by
  unfold Int.ModEq
  rw [h.position, Int32.toInt_ofInt]
  exact Int.bmod_emod

/-- A port whose counters were read at the spots of `path`, and which attempted
the given moves along each axis. -/
structure Follows (path : List Spot) (movesX movesY : List Int32) (state : MouseState) :
    Prop where
  latched : state.latched = path.getLast?.map fun spot =>
    (UInt8.ofInt spot.x, UInt8.ofInt spot.y)
  x : state.x.Sums (travelled Spot.x path) movesX
  y : state.y.Sums (travelled Spot.y path) movesY

theorem follows_new : Follows [] [] [] {} := ⟨rfl, ⟨rfl, rfl⟩, ⟨rfl, rfl⟩⟩

/-- What a successful read of the counters makes of a port, and what it reports. -/
def MouseState.count (state : MouseState) (word : UInt16) (bound : Int32) :
    (Int32 × Int32) × MouseState :=
  (state.latch word).2.accumulate (state.latch word).1.1.toInt32 (state.latch word).1.2.toInt32
    bound

/-- The movement of a read at the next spot is the step there; the first read only
primes the latch. -/
theorem latch_counters {state : MouseState} {path : List Spot} {next : Spot}
    (hlatched : state.latched = path.getLast?.map fun spot =>
      (UInt8.ofInt spot.x, UInt8.ofInt spot.y))
    (hnear : ∀ last ∈ path.getLast?, last.Near next) :
    (state.latch next.counters).1.1.toInt =
        (path.getLast?.map fun last => next.x - last.x).getD 0 ∧
      (state.latch next.counters).1.2.toInt =
        (path.getLast?.map fun last => next.y - last.y).getD 0 := by
  unfold MouseState.latch
  rw [Spot.counters_low, Spot.counters_high, hlatched]
  cases hlast : path.getLast? with
  | none => exact ⟨rfl, rfl⟩
  | some last =>
    obtain ⟨hx, hy⟩ := hnear last hlast
    exact ⟨toInt_sub_ofInt hx, toInt_sub_ofInt hy⟩

theorem Follows.count {path : List Spot} {movesX movesY : List Int32} {state : MouseState}
    (h : Follows path movesX movesY state) {next : Spot}
    (hnear : ∀ last ∈ path.getLast?, last.Near next) (bound : Int32) :
    Follows (path ++ [next]) (movesX ++ nonzero (state.count next.counters bound).1.1)
      (movesY ++ nonzero (state.count next.counters bound).1.2)
      (state.count next.counters bound).2 := by
  obtain ⟨hx, hy⟩ := latch_counters h.latched hnear
  refine ⟨?_, ?_, ?_⟩
  · show some (next.counters.toUInt8, (next.counters >>> 8).toUInt8) = _
    rw [Spot.counters_low, Spot.counters_high, List.getLast?_concat]
    rfl
  · rw [travelled_concat, ← hx, ← Int8.toInt_toInt32]
    exact h.x.advance _ _
  · rw [travelled_concat, ← hy, ← Int8.toInt_toInt32]
    exact h.y.advance _ _

end InputBridge
