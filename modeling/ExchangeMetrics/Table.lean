/-!
# Tables

A table gives values to some of its keys. Giving a value to a key that has one replaces it.

## Main results

* `Table.find?_insert`, `Table.find?_erase`: what the two operations do to every key.
-/

namespace ExchangeMetrics

/-- Keys with their values. -/
structure Table (κ α : Type) where
  /-- The pairs; the first one with a key counts. -/
  entries : List (κ × α) := []

namespace Table

variable {κ α : Type} [DecidableEq κ]

/-- The table in which no key has a value. -/
def empty : Table κ α := {}

/-- The value of a key, if it has one. -/
def find? (t : Table κ α) (k : κ) : Option α :=
  (t.entries.find? (·.1 = k)).map (·.2)

/-- Take its value away from a key. -/
def erase (t : Table κ α) (k : κ) : Table κ α :=
  ⟨t.entries.filter (·.1 ≠ k)⟩

/-- Give a key a value. -/
def insert (t : Table κ α) (k : κ) (a : α) : Table κ α :=
  ⟨(k, a) :: (t.erase k).entries⟩

/-- Nothing is found in an empty table. -/
@[simp]
theorem find?_empty (k : κ) : (empty : Table κ α).find? k = none := rfl

/-- A key that was erased is not found, and the others are found as before. -/
theorem find?_erase (t : Table κ α) (k k' : κ) :
    (t.erase k).find? k' = if k = k' then none else t.find? k' := by
  unfold find? erase
  by_cases h : k = k'
  · subst h
    simp [List.find?_filter]
  · rw [List.find?_filter, if_neg h]
    congr 2
    funext e
    by_cases he : e.1 = k'
    · simp [he, Ne.symm h]
    · simp [he]

/-- A key is found with what was inserted under it last, and the others are found as before. -/
theorem find?_insert (t : Table κ α) (k k' : κ) (a : α) :
    (t.insert k a).find? k' = if k = k' then some a else t.find? k' := by
  by_cases h : k = k'
  · simp [find?, insert, h]
  · have := find?_erase t k k'
    simp only [find?, h, if_false] at this
    simp [find?, insert, h, this]

end Table

end ExchangeMetrics
