/-!
# Finite tables

A `Table` assigns values to finitely many keys. It is what a register file, a
set of pin masks or a set of pending faults is made of. The view of a table is
its lookup: `get?_put` says what one entry changes, and nothing else about the
order of entries can be seen through it.
-/

namespace InputBridge

/-- Finitely many keys with one value each. -/
structure Table (κ ν : Type) where
  entries : List (κ × ν) := []

namespace Table

variable {κ ν : Type} [DecidableEq κ]

/-- The table without entries. -/
def empty : Table κ ν := {}

/-- The value of a key, if it has one. -/
def get? (table : Table κ ν) (key : κ) : Option ν :=
  (table.entries.find? (·.1 = key)).map (·.2)

/-- Gives `key` the value `value` and leaves every other key alone. -/
def put (table : Table κ ν) (key : κ) (value : ν) : Table κ ν :=
  { entries := (key, value) :: table.entries.filter (·.1 ≠ key) }

@[simp] theorem get?_empty (key : κ) : (empty : Table κ ν).get? key = none := rfl

/-- Dropping the entries of one key does not change the lookup of another. -/
private theorem find?_filter_ne {key other : κ} (h : other ≠ key) (entries : List (κ × ν)) :
    (entries.filter (·.1 ≠ key)).find? (·.1 = other) = entries.find? (·.1 = other) := by
  induction entries with
  | nil => rfl
  | cons entry rest ih =>
    by_cases hkey : entry.1 = key
    · have hother : entry.1 ≠ other := fun he => h (he.symm.trans hkey)
      simpa [hkey, List.find?_cons, hother, Ne.symm h] using ih
    · by_cases hother : entry.1 = other
      · simp [hother, h]
      · simpa [hkey, hother, List.find?_cons] using ih

@[simp] theorem get?_put_self (table : Table κ ν) (key : κ) (value : ν) :
    (table.put key value).get? key = some value := by
  simp [get?, put]

theorem get?_put_ne (table : Table κ ν) {key other : κ} (value : ν) (h : other ≠ key) :
    (table.put key value).get? other = table.get? other := by
  have hne : key ≠ other := Ne.symm h
  simp only [get?, put, List.find?_cons, hne, decide_false]
  rw [find?_filter_ne h]

/-- A lookup sees the last value put under its key. -/
theorem get?_put (table : Table κ ν) (key other : κ) (value : ν) :
    (table.put key value).get? other = if other = key then some value else table.get? other := by
  split
  · next h => subst h; exact get?_put_self table other value
  · next h => exact get?_put_ne table value h

end Table

end InputBridge
