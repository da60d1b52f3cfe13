import InputBridge.Proofs.Matrix.Positions

/-!
# Looking keys up

A key map can be asked for the key at a position (`get?`), for all of its entries and for the
position of a key. All three speak of the same table: an entry is a position inside the matrix
with the key that `get?` returns there (`mem_entries_iff`), and the entries come in the order of
their positions (`positions_entries`). So the entry that is found first is the least one with
its key (`position?_eq_some_iff`), and the only one if no key is in the map twice.
-/

namespace InputBridge

/-! ## The first of many -/

/-- Where a list is in order, what is found in it is the least element of its kind. -/
theorem find?_eq_some_iff_least {α : Type} {before : α → α → Prop}
    (hasymm : ∀ a b, before a b → ¬before b a) {kind : α → Bool} {found : α} :
    ∀ {l : List α}, l.Pairwise before → (l.find? kind = some found ↔
      (found ∈ l ∧ kind found = true) ∧ ∀ a ∈ l, kind a = true → found = a ∨ before found a)
  | [], _ => by simp
  | first :: rest, h => by
    obtain ⟨hfirst, hrest⟩ := List.pairwise_cons.mp h
    have ih : rest.find? kind = some found ↔ _ := find?_eq_some_iff_least hasymm hrest
    by_cases hkind : kind first = true
    · rw [List.find?_cons_of_pos hkind, Option.some.injEq]
      constructor
      · rintro rfl
        refine ⟨⟨List.mem_cons_self .., hkind⟩, List.forall_mem_cons.mpr ⟨fun _ => .inl rfl, ?_⟩⟩
        exact fun a hin _ => .inr (hfirst a hin)
      · rintro ⟨⟨hin, -⟩, hleast⟩
        rcases hleast first (List.mem_cons_self ..) hkind with heq | hbefore
        · exact heq.symm
        · rcases List.mem_cons.mp hin with heq | hlater
          · exact heq.symm
          · exact absurd (hfirst found hlater) (hasymm _ _ hbefore)
    · rw [List.find?_cons_of_neg hkind, ih, List.mem_cons, List.forall_mem_cons]
      constructor
      · rintro ⟨⟨hin, hfound⟩, hleast⟩
        exact ⟨⟨.inr hin, hfound⟩, fun hpos => absurd hpos hkind, hleast⟩
      · rintro ⟨⟨hin, hfound⟩, -, hleast⟩
        exact ⟨⟨hin.resolve_left fun heq => hkind (heq ▸ hfound), hfound⟩, hleast⟩

theorem Position.Before.asymm {p q : Position} (h : p.Before q) : ¬q.Before p := by
  unfold Position.Before at *
  omega

namespace KeyMap

variable (map : KeyMap)

/-! ## Entries -/

theorem get?_eq_some_iff {row column : Nat} {key : Key} : map.get? row column = some key ↔
    ∃ keys, map.rows[row]? = some keys ∧ keys[column]? = some key :=
  Option.bind_eq_some_iff

/-- Keys are found inside the matrix only. -/
theorem bounds_of_get? {row column : Nat} {key : Key} (h : map.get? row column = some key) :
    row < rowCount ∧ column < columnCount := by
  obtain ⟨keys, hrow, hcolumn⟩ := map.get?_eq_some_iff.mp h
  exact ⟨(Vector.getElem?_eq_some_iff.mp hrow).1, (Vector.getElem?_eq_some_iff.mp hcolumn).1⟩

theorem get?_eq_none_iff {row column : Nat} :
    map.get? row column = none ↔ ¬(row < rowCount ∧ column < columnCount) := by
  constructor
  · intro h hin
    obtain ⟨key, hkey⟩ := map.exists_get?_of_mem_all (p := ⟨row, column⟩)
      (Position.mem_all_iff.mpr hin)
    rw [h] at hkey
    exact nomatch hkey
  · intro hout
    rw [Option.eq_none_iff_forall_ne_some]
    exact fun key hkey => hout (map.bounds_of_get? hkey)

theorem mem_entries_iff {p : Position} {key : Key} :
    (p, key) ∈ map.entries ↔ map.get? p.row p.column = some key := by
  obtain ⟨row, column⟩ := p
  rw [get?_eq_some_iff]
  unfold entries
  constructor
  · intro h
    obtain ⟨⟨keys, r⟩, hrow, hentry⟩ := List.mem_flatMap.mp h
    obtain ⟨⟨found, c⟩, hcolumn, he⟩ := List.mem_map.mp hentry
    obtain ⟨hp, rfl⟩ := Prod.mk.inj he
    obtain ⟨rfl, rfl⟩ := Position.mk.inj hp
    refine ⟨keys, ?_, ?_⟩
    · rw [← Vector.getElem?_toList]
      exact List.mk_mem_zipIdx_iff_getElem?.mp hrow
    · rw [← Vector.getElem?_toList]
      exact List.mk_mem_zipIdx_iff_getElem?.mp hcolumn
  · rintro ⟨keys, hrow, hcolumn⟩
    rw [← Vector.getElem?_toList] at hrow hcolumn
    have hkeys : (keys, row) ∈ map.rows.toList.zipIdx := List.mk_mem_zipIdx_iff_getElem?.mpr hrow
    have hkey : (key, column) ∈ keys.toList.zipIdx :=
      List.mk_mem_zipIdx_iff_getElem?.mpr hcolumn
    exact List.mem_flatMap.mpr ⟨_, hkeys, List.mem_map.mpr ⟨_, hkey, rfl⟩⟩

/-- The entries are those of all positions, in their order. -/
theorem positions_entries : map.entries.map Prod.fst = Position.all := by
  have hrow : ∀ entry ∈ map.rows.toList.zipIdx,
      (entry.1.toList.zipIdx.map fun cell =>
          ((⟨entry.2, cell.2⟩, cell.1) : Position × Key)).map Prod.fst =
        (List.range columnCount).map (Position.mk entry.2) := by
    intro entry _
    have hcolumns : entry.1.toList.zipIdx.map Prod.snd = List.range columnCount := by
      rw [List.zipIdx_map_snd, Vector.length_toList, ← List.range_eq_range']
    rw [← hcolumns, List.map_map, List.map_map]
    rfl
  have hrows : map.rows.toList.zipIdx.map Prod.snd = List.range rowCount := by
    rw [List.zipIdx_map_snd, Vector.length_toList, ← List.range_eq_range']
  unfold entries Position.all
  rw [List.map_flatMap, List.flatMap_congr hrow, ← hrows, List.flatMap_map]

variable {map}

/-- A key map is nothing but the keys at its positions. -/
theorem eq_of_get? {other : KeyMap} (h : ∀ row < rowCount, ∀ column < columnCount,
    map.get? row column = other.get? row column) : map = other := by
  obtain ⟨rows⟩ := map
  obtain ⟨others⟩ := other
  congr 1
  ext row hrow column hcolumn
  have hsame := h row hrow column hcolumn
  unfold get? at hsame
  rw [Vector.getElem?_eq_getElem hrow, Vector.getElem?_eq_getElem hrow, Option.bind_some,
    Option.bind_some, Vector.getElem?_eq_getElem hcolumn,
    Vector.getElem?_eq_getElem hcolumn] at hsame
  exact Option.some.inj hsame

variable (map)

/-! ## The position of a key -/

theorem position?_eq_some_iff {key : Key} {p : Position} : map.position? key = some p ↔
    map.get? p.row p.column = some key ∧
      ∀ q, map.get? q.row q.column = some key → p = q ∨ p.Before q := by
  have hordered : map.entries.Pairwise fun entry later => entry.1.Before later.1 := by
    rw [← List.pairwise_map, positions_entries]
    exact Position.all_pairwise
  have hfound : ∀ entry : Position × Key, map.entries.find? (·.2 = key) = some entry ↔ _ :=
    fun entry => find?_eq_some_iff_least (fun _ _ h => h.asymm) hordered
  unfold position?
  rw [Option.map_eq_some_iff]
  constructor
  · rintro ⟨⟨p, other⟩, hfind, rfl⟩
    obtain ⟨⟨hin, hkey⟩, hleast⟩ := (hfound (p, other)).mp hfind
    obtain rfl : other = key := of_decide_eq_true hkey
    refine ⟨map.mem_entries_iff.mp hin, fun q hq => ?_⟩
    rcases hleast (q, other) (map.mem_entries_iff.mpr hq) (decide_eq_true rfl) with heq | hbefore
    · exact .inl (congrArg Prod.fst heq)
    · exact .inr hbefore
  · rintro ⟨hget, hleast⟩
    refine ⟨(p, key), (hfound (p, key)).mpr ⟨⟨map.mem_entries_iff.mpr hget, by simp⟩, ?_⟩, rfl⟩
    rintro ⟨q, other⟩ hin hkey
    obtain rfl : other = key := of_decide_eq_true hkey
    rcases hleast q (map.mem_entries_iff.mp hin) with rfl | hbefore
    · exact .inl rfl
    · exact .inr hbefore

theorem position?_eq_none_iff {key : Key} :
    map.position? key = none ↔ ∀ p : Position, map.get? p.row p.column ≠ some key := by
  unfold position?
  rw [Option.map_eq_none_iff, List.find?_eq_none]
  constructor
  · intro h p hp
    exact h (p, key) (map.mem_entries_iff.mpr hp) (decide_eq_true rfl)
  · rintro h ⟨p, other⟩ hin hkey
    obtain rfl : other = key := of_decide_eq_true hkey
    exact h p (map.mem_entries_iff.mp hin)

/-- No key is in the map twice. -/
def Distinct : Prop := ∀ (key : Key) (p q : Position),
  map.get? p.row p.column = some key → map.get? q.row q.column = some key → p = q

theorem standard_distinct : standard.Distinct := by
  intro key p q hp hq
  obtain ⟨home, hhome⟩ := standard_home key
  have hat : ∀ place : Position,
      standard.get? place.row place.column = some key → place = home := by
    intro place hplace
    have hin : place ∈ Position.all := Position.mem_all_iff.mpr (standard.bounds_of_get? hplace)
    exact (hhome.get?_eq_iff place hin).mp hplace
  rw [hat p hp, hat q hq]

/-- **Lookups agree.** In any key map the entries are in strict row-major order, one for every
position of the matrix, each with the key that is found there. The position of a key is the
least one that carries it, and there is none if no position does. Outside the matrix there is
no key. So where no key is in the map twice, as in the standard one, the position of a key and
the key at a position are inverse to each other. -/
theorem lookups_agree (map : KeyMap) :
    (map.entries.map Prod.fst).Pairwise Position.Before ∧
    (∀ p, p ∈ map.entries.map Prod.fst ↔ p.row < rowCount ∧ p.column < columnCount) ∧
    (∀ p key, (p, key) ∈ map.entries ↔ map.get? p.row p.column = some key) ∧
    (∀ row column, map.get? row column = none ↔ ¬(row < rowCount ∧ column < columnCount)) ∧
    (∀ key p, map.position? key = some p ↔ map.get? p.row p.column = some key ∧
      ∀ q, map.get? q.row q.column = some key → p = q ∨ p.Before q) ∧
    (∀ key, map.position? key = none ↔ ∀ p : Position, map.get? p.row p.column ≠ some key) ∧
    (map.Distinct → ∀ key p, map.position? key = some p ↔ map.get? p.row p.column = some key) ∧
    standard.Distinct := by
  refine ⟨?_, ?_, fun _ _ => map.mem_entries_iff, fun _ _ => map.get?_eq_none_iff,
    fun _ _ => map.position?_eq_some_iff, fun _ => map.position?_eq_none_iff, ?_,
    standard_distinct⟩
  · rw [positions_entries]
    exact Position.all_pairwise
  · intro p
    rw [positions_entries]
    exact Position.mem_all_iff
  · intro hdistinct key p
    rw [position?_eq_some_iff]
    exact ⟨And.left, fun hget => ⟨hget, fun q hq => .inl (hdistinct key p q hget hq)⟩⟩

end KeyMap

end InputBridge
