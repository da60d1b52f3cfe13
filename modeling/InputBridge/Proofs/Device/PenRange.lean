import InputBridge.Bus.Memory
import InputBridge.Proofs.Device.PenStates

/-!
# The range of the pen

A host is told a range for each axis of the pen. The beam counters are wider than the screen:
the columns stay inside it all the same, since eight bits count pairs of them (`decode_x`), but
fifteen bits count the lines (`decode_y`), and what they latch is reported as it is. So a
reported position lies within the range just if the latched line does (`reported_in_range`).
-/

namespace InputBridge

variable {β : Type}

/-- The largest value of an axis that a host is told of; the smallest is 0. -/
def AbsoluteAxis.limit : AbsoluteAxis → Nat
  | .x => screenWidth
  | .y => screenHeight
  | .pressure => 255

namespace Beam

/-- The line that is latched: the low byte of the one word and seven bits of the other. -/
def latchedLine (vhposr vposr : UInt16) : Nat := vhposr.toNat % 256 + 256 * (vposr.toNat % 128)

theorem decode_x (vhposr vposr : UInt16) :
    (decode vhposr vposr).x.toNat = 2 * (vhposr.toNat / 256) := by
  have hword : vhposr.toNat < 65536 := vhposr.toNat_lt
  show ((vhposr >>> 8) <<< 1).toNat = _
  rw [UInt16.toNat_shiftLeft, UInt16.toNat_shiftRight]
  show vhposr.toNat >>> 8 <<< 1 % 65536 = _
  rw [Nat.shiftRight_eq_div_pow, Nat.shiftLeft_eq]
  omega

theorem decode_y (vhposr vposr : UInt16) :
    (decode vhposr vposr).y.toNat = latchedLine vhposr vposr := by
  have hlow : (vhposr &&& 0x00FF).toNat = vhposr.toNat % 2 ^ 8 :=
    (UInt16.toNat_and ..).trans (Nat.and_two_pow_sub_one_eq_mod _ 8)
  have hhigh : (vposr &&& 0x007F).toNat = vposr.toNat % 2 ^ 7 :=
    (UInt16.toNat_and ..).trans (Nat.and_two_pow_sub_one_eq_mod _ 7)
  have hshifted : ((vposr &&& 0x007F) <<< 8).toNat = (vposr.toNat % 2 ^ 7) <<< 8 := by
    rw [UInt16.toNat_shiftLeft, hhigh]
    show (vposr.toNat % 2 ^ 7) <<< 8 % 65536 = _
    rw [Nat.shiftLeft_eq]
    omega
  -- The low byte fills the bits that the shift leaves free.
  show ((vhposr &&& 0x00FF) ||| ((vposr &&& 0x007F) <<< (8 : UInt16))).toNat = _
  rw [UInt16.toNat_or, hlow, hshifted, Nat.or_comm,
    ← Nat.shiftLeft_add_eq_or_of_lt (Nat.mod_lt _ (by decide)), Nat.shiftLeft_eq]
  unfold latchedLine
  omega

end Beam

/-- A coordinate is reported as the number that it is. -/
theorem toInt_coordinate (coordinate : UInt16) :
    (Int32.ofNat coordinate.toNat).toInt = coordinate.toNat := by
  have hword : coordinate.toNat < 65536 := coordinate.toNat_lt
  exact Int32.toInt_ofNat_of_lt (by omega)

/-- The moves for a latched place: none is negative, and only the line can be beyond its
limit. -/
theorem placeEvents_in_range {vhposr vposr : UInt16} {tipDown : Bool} {axis : AbsoluteAxis}
    {value : Int32} (hin : .absolute axis value ∈ placeEvents (Beam.decode vhposr vposr) tipDown) :
    0 ≤ value.toInt ∧
      (value.toInt ≤ axis.limit ↔ (axis = .y → Beam.latchedLine vhposr vposr ≤ screenHeight)) := by
  simp only [placeEvents, List.mem_cons, List.not_mem_nil, or_false, Event.absolute.injEq] at hin
  rcases hin with ⟨rfl, rfl⟩ | ⟨rfl, rfl⟩ | ⟨rfl, rfl⟩
  · have hword : vhposr.toNat < 65536 := vhposr.toNat_lt
    have hcolumn : 2 * (vhposr.toNat / 256) ≤ screenWidth := by
      unfold screenWidth
      omega
    rw [toInt_coordinate, Beam.decode_x]
    refine ⟨by omega, fun _ hy => absurd hy (by decide), fun _ => ?_⟩
    exact Int.ofNat_le.mpr hcolumn
  · rw [toInt_coordinate, Beam.decode_y]
    refine ⟨by omega, fun hle _ => ?_, fun hline => ?_⟩
    · exact Int.ofNat_le.mp hle
    · exact Int.ofNat_le.mpr (hline rfl)
  · have hpressure : ∀ tipDown : Bool, 0 ≤ (if tipDown then 255 else 128 : Int32).toInt ∧
        (if tipDown then 255 else 128 : Int32).toInt ≤ 255 := by decide
    obtain ⟨hlow, hhigh⟩ := hpressure tipDown
    exact ⟨hlow, fun _ hy => absurd hy (by decide), fun _ => hhigh⟩

/-- **The range of the pen.** Whatever the registers answer in a run of polls, no reported
value is negative, and each is within the limit of its axis, except that of a line that was
latched beyond the screen. -/
theorem reported_in_range [RegisterBus β] (map : RegisterMap) (changes : List (β → β)) (bus : β) :
    ∀ polled ∈ polls Lightpen.poll changes (Lightpen.new map) bus,
      ∀ axis value, .absolute axis value ∈ polled.events →
        ∃ vhposr vposr joy0dat, polled.Finds map vhposr vposr joy0dat ∧ 0 ≤ value.toInt ∧
          (value.toInt ≤ axis.limit ↔
            (axis = .y → Beam.latchedLine vhposr vposr ≤ screenHeight)) := by
  intro polled hpolled axis value hmove
  have hinv : PenInv map _ _ :=
    polls_inv (fun done pen bus => penInv_step done pen bus) changes bus (penInv_new map)
  have hasRead : PolledAsRead map polled := hinv.asRead polled hpolled
  obtain ⟨vhposr, vposr, joy0dat, hfinds⟩ := hasRead.moved axis value hmove
  obtain ⟨hevents, -⟩ := hasRead.found vhposr vposr joy0dat hfinds
  rw [hevents] at hmove
  refine ⟨vhposr, vposr, joy0dat, hfinds, ?_⟩
  rcases List.mem_append.mp hmove with hplace | htip
  · exact placeEvents_in_range hplace
  · -- The edges of the tip are no moves.
    split at htip
    · exact absurd htip List.not_mem_nil
    · exact absurd htip (by simp [tipEvents])

/-- A machine with a pen in sight, and these words in the beam counters. -/
def penMachine (vhposr vposr : UInt16) : MemoryBus :=
  let map := RegisterMap.forChipset .ocs
  let bus := ({} : MemoryBus).setLevel map.potgor potPenSeen
  (bus.setLevel map.vhposr vhposr).setLevel map.vposr vposr

/-- A pen on line 356: the value is reported and within the range. -/
theorem reported_in_range_of_line :
    let map := RegisterMap.forChipset .ocs
    let polled := pollOnce Lightpen.poll (Lightpen.new map) (penMachine 0x2A64 0x0001)
    .absolute .y 356 ∈ polled.events ∧
      ∃ vhposr vposr joy0dat, polled.Finds map vhposr vposr joy0dat ∧
        ((356 : Int32).toInt ≤ AbsoluteAxis.y.limit ↔
          Beam.latchedLine vhposr vposr ≤ screenHeight) := by
  intro map polled
  have hmove : Event.absolute .y 356 ∈ polled.events := by decide
  obtain ⟨vhposr, vposr, joy0dat, hfinds, -, hiff⟩ :=
    reported_in_range map [id] (penMachine 0x2A64 0x0001) polled (List.mem_singleton_self _) .y 356
      hmove
  exact ⟨hmove, vhposr, vposr, joy0dat, hfinds, hiff.trans ⟨fun h => h rfl, fun h _ => h⟩⟩

/-- A pen on line 569 is reported there, which is beyond the range. -/
theorem reported_beyond_range :
    ∃ polled ∈ polls Lightpen.poll [id] (Lightpen.new (.forChipset .ocs))
        (penMachine 0x0039 0x0002),
      .absolute .y 569 ∈ polled.events ∧ ¬(569 : Int32).toInt ≤ AbsoluteAxis.y.limit :=
  ⟨_, List.mem_singleton_self _, by decide, by decide⟩

end InputBridge
