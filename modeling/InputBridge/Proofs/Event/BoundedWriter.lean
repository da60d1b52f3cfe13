import InputBridge.Event.Writer
import InputBridge.Proofs.Text.Printable

/-!
# What a bounded writer keeps

Of all that a writer is given it keeps the beginning: as much as its limit allows (`kept`). A
write fails if that is less than all, and whatever is written after it fails too. `write_of_kept`
is one write, for a writer that has kept the beginning of everything before it; so what came of
the writes before, or in how many pieces they were made, does not matter.
-/

namespace InputBridge

/-- The beginning of a text that a writer with this limit keeps. -/
def kept (limit : Option Nat) (text : String) : String :=
  match limit with
  | none => text
  | some limit => String.ofList (text.toList.take limit)

/-- Is all of a text kept? -/
def fits (limit : Option Nat) (text : String) : Bool := limit.all (text.length ≤ ·)

theorem kept_some (limit : Nat) (text : String) :
    kept (some limit) text = String.ofList (text.toList.take limit) := rfl

theorem kept_empty (limit : Option Nat) : kept limit "" = "" := by
  cases limit with
  | none => rfl
  | some limit => simp [kept]

theorem kept_append {limit : Option Nat} {text : String} (h : fits limit text = false)
    (more : String) : kept limit (text ++ more) = kept limit text := by
  cases limit with
  | none => exact nomatch h
  | some limit =>
    have hlong : limit ≤ text.toList.length := by
      simp [fits] at h
      exact Nat.le_of_lt h
    rw [kept_some, kept_some, String.toList_append, List.take_append_of_le_length hlong]

theorem fits_empty (limit : Option Nat) : fits limit "" = true := by
  cases limit <;> simp [fits]

/-- If a text is kept in whole, so is its beginning. -/
theorem fits_of_append {limit : Option Nat} {text more : String}
    (h : fits limit (text ++ more) = true) : fits limit text = true := by
  cases limit with
  | none => rfl
  | some limit =>
    simp only [fits, Option.all_some, String.length_append, decide_eq_true_eq] at h ⊢
    omega

theorem bytes_kept {text : String} (h : Text.IsAscii text) (limit : Nat) :
    Text.bytes (kept (some limit) text) = (Text.bytes text).take limit := Text.bytes_take h limit

theorem fits_iff_bytes {text : String} (h : Text.IsAscii text) (limit : Nat) :
    fits (some limit) text = true ↔ (Text.bytes text).length ≤ limit := by
  rw [Text.length_bytes h]
  exact decide_eq_true_iff

/-- A write to a writer that has kept the beginning of `before`. -/
theorem Writer.write_of_kept {writer : Writer} {before piece : String}
    (h : writer.text = kept writer.limit before) (hpiece : piece ≠ "") :
    writer.write piece =
      (if fits writer.limit (before ++ piece) then .ok () else .error .full,
        { writer with text := kept writer.limit (before ++ piece) }) := by
  obtain ⟨text, limit, refusesFlush, flushes⟩ := writer
  obtain rfl : text = kept limit before := h
  unfold write
  cases limit with
  | none => rfl
  | some limit =>
    have hpos : 0 < piece.length := by
      rwa [← String.length_toList, List.length_pos_iff, ne_eq, String.toList_eq_nil_iff]
    have hlength : (kept (some limit) before).length = min limit before.length := by
      simp [kept_some, String.length_toList]
    have hfits : fits (some limit) (before ++ piece) = true ↔
        before.length + piece.length ≤ limit := by simp [fits]
    -- What is kept of both is what was kept of the first, and what there is room for.
    have hkept : kept (some limit) (before ++ piece) = kept (some limit) before ++
        String.ofList (piece.toList.take (limit - (kept (some limit) before).length)) := by
      rw [hlength, ← String.toList_inj, kept_some, kept_some]
      simp only [String.toList_append, String.toList_ofList, List.take_append,
        String.length_toList]
      congr 2
      omega
    have hroom : piece.length ≤ limit - (kept (some limit) before).length ↔
        fits (some limit) (before ++ piece) = true := by
      rw [hfits, hlength]
      omega
    dsimp only
    rw [hkept]
    by_cases h : fits (some limit) (before ++ piece) = true
    · have hwhole : piece.toList.take (limit - (kept (some limit) before).length) = piece.toList :=
        List.take_of_length_le (by rw [String.length_toList]; exact hroom.mpr h)
      rw [if_pos (hroom.mpr h), if_pos h, hwhole, String.ofList_toList]
    · rw [if_neg (hroom.not.mpr h), if_neg h]

end InputBridge
