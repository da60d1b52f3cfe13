import InputBridge.Matrix.KeyMap
import Mathlib.Data.List.Nodup

/-!
# Positions of the matrix

`Position.all` lists the 54 positions once each and in row-major order
(`mem_all_iff`, `all_pairwise`). Every position inside the matrix has a key, and
in the matrix as it is wired (`KeyMap.standard`) every key sits at exactly one of
them: `standard_home` gives that position.
-/

namespace InputBridge

namespace Position

/-- Row-major order: the row counts first, then the column. -/
def Before (p q : Position) : Prop := p.row < q.row ∨ p.row = q.row ∧ p.column < q.column

instance (p q : Position) : Decidable (Before p q) :=
  inferInstanceAs (Decidable (p.row < q.row ∨ p.row = q.row ∧ p.column < q.column))

theorem mem_all_iff {p : Position} : p ∈ all ↔ p.row < rowCount ∧ p.column < columnCount := by
  obtain ⟨row, column⟩ := p
  unfold all
  constructor
  · intro h
    obtain ⟨r, hr, hp⟩ := List.mem_flatMap.mp h
    obtain ⟨c, hc, he⟩ := List.mem_map.mp hp
    injection he with hrow hcolumn
    exact ⟨hrow ▸ List.mem_range.mp hr, hcolumn ▸ List.mem_range.mp hc⟩
  · rintro ⟨hr, hc⟩
    exact List.mem_flatMap.mpr
      ⟨row, List.mem_range.mpr hr, List.mem_map.mpr ⟨column, List.mem_range.mpr hc, rfl⟩⟩

theorem all_pairwise : all.Pairwise Before := by decide

theorem all_nodup : all.Nodup := by
  refine all_pairwise.imp ?_
  intro p q hpq he
  subst he
  rcases hpq with h | ⟨-, h⟩
  · exact Nat.lt_irrefl _ h
  · exact Nat.lt_irrefl _ h

end Position

namespace KeyMap

/-- Inside the matrix every position has a key. -/
theorem exists_get?_of_mem_all (map : KeyMap) {p : Position} (h : p ∈ Position.all) :
    ∃ key, map.get? p.row p.column = some key := by
  obtain ⟨hr, hc⟩ := Position.mem_all_iff.mp h
  refine ⟨map.rows[p.row][p.column], ?_⟩
  unfold get?
  rw [Vector.getElem?_eq_getElem hr, Option.bind_some, Vector.getElem?_eq_getElem hc]

/-- The standard matrix read position by position. -/
theorem standard_keys :
    Position.all.map (fun p => standard.get? p.row p.column) = Key.all.map some := by decide

theorem mem_all_keys (key : Key) : key ∈ Key.all := by cases key <;> decide

theorem all_keys_nodup : Key.all.Nodup := by decide

/-- `home` is a position of the matrix, and the only one of it with this key. -/
structure IsHome (map : KeyMap) (key : Key) (home : Position) : Prop where
  mem : home ∈ Position.all
  get?_eq_iff : ∀ p ∈ Position.all, map.get? p.row p.column = some key ↔ p = home

/-- In the standard matrix each key has one position, and no other carries it. -/
theorem standard_home (key : Key) : ∃ home, standard.IsHome key home := by
  have hnodup : (Position.all.map fun p => standard.get? p.row p.column).Nodup := by
    rw [standard_keys]
    exact all_keys_nodup.map fun _ _ h => Option.some.inj h
  have hmem : some key ∈ Position.all.map fun p => standard.get? p.row p.column := by
    rw [standard_keys]
    exact List.mem_map_of_mem (mem_all_keys key)
  obtain ⟨home, hhome, hkey⟩ := List.mem_map.mp hmem
  refine ⟨home, hhome, fun p hp => ⟨fun h => ?_, fun h => h ▸ hkey⟩⟩
  exact List.inj_on_of_nodup_map hnodup hp hhome (h.trans hkey.symm)

end KeyMap

end InputBridge
