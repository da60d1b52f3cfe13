import InputBridge.Config.Basic
import Mathlib.Data.List.Nodup

/-!
# Valid configurations

`validate` stops at the first of four conditions that is violated; `validate_eq_ok_iff` puts
the conditions side by side.
-/

namespace InputBridge

theorem firstRepeated_eq_none_iff : ∀ {earlier ports : List Port},
    firstRepeated earlier ports = none ↔ ports.Nodup ∧ ∀ port ∈ ports, port ∉ earlier
  | _, [] => by simp [firstRepeated]
  | earlier, port :: rest => by
    unfold firstRepeated
    by_cases hin : port ∈ earlier
    · simp [hin]
    · rw [if_neg hin, firstRepeated_eq_none_iff, List.nodup_cons]
      constructor
      · rintro ⟨hnodup, hnew⟩
        refine ⟨⟨fun hrest => hnew port hrest (by simp), hnodup⟩, ?_⟩
        refine List.forall_mem_cons.mpr ⟨hin, fun other hother hearlier => ?_⟩
        exact hnew other hother (List.mem_append_left _ hearlier)
      · rintro ⟨⟨hnot, hnodup⟩, hnew⟩
        refine ⟨hnodup, fun other hother hearlier => ?_⟩
        rcases List.mem_append.mp hearlier with hbefore | hport
        · exact hnew other (List.mem_cons_of_mem _ hother) hbefore
        · exact hnot (List.mem_singleton.mp hport ▸ hother)

/-- A configuration is valid if the interval and the bound are positive, no port is listed
twice, and some device is enabled. -/
theorem Config.validate_eq_ok_iff {config : Config} :
    config.validate = .ok () ↔ config.pollInterval ≠ 0 ∧ 0 < config.maxMouseDelta ∧
      config.mousePorts.Nodup ∧ (config.keyboard || config.mouse || config.lightpen) = true := by
  have hports : firstRepeated [] config.mousePorts = none ↔ config.mousePorts.Nodup := by
    simp [firstRepeated_eq_none_iff]
  unfold validate
  by_cases hinterval : config.pollInterval = 0
  · simp [hinterval]
  · by_cases hdelta : config.maxMouseDelta ≤ 0
    · have hnot : ¬0 < config.maxMouseDelta := Int32.not_lt.mpr hdelta
      simp [hinterval, hdelta, hnot]
    · rw [if_neg hinterval, if_neg hdelta, ← hports]
      cases hrepeated : firstRepeated [] config.mousePorts with
      | some port => simp
      | none =>
        dsimp only
        split
        next henabled => simp [henabled, hinterval, Int32.not_le.mp hdelta]
        next henabled => simp [henabled]

end InputBridge
