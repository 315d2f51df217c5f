/-!
# Values by key

Lists of pairs as tables with one entry per key, in the order in which the keys
first came. `put` adds an entry or replaces one where it stands, so that a look-up
finds the value that was put last (`lookup_put`).
-/

namespace Dialogue.Keyed

/-- Put a value under a key, in the place of an earlier one. -/
def put (key : String) (value : α) : List (String × α) → List (String × α)
  | [] => [(key, value)]
  | (k, v) :: rest => if k = key then (key, value) :: rest else (k, v) :: put key value rest

/-- A look-up finds what was put last. -/
theorem lookup_put (key k : String) (value : α) (table : List (String × α)) :
    (put key value table).lookup k = if k = key then some value else table.lookup k := by
  induction table with
  | nil =>
    by_cases h : k = key
    · simp [put, h]
    · simp [put, List.lookup_cons, beq_false_of_ne h, h]
  | cons entry rest ih =>
    obtain ⟨j, v⟩ := entry
    by_cases hj : j = key
    · subst hj
      by_cases h : k = j
      · simp [put, h]
      · simp [put, List.lookup_cons, beq_false_of_ne h, h]
    · by_cases h : k = j
      · subst h; simp [put, hj]
      · simp [put, List.lookup_cons, beq_false_of_ne h, hj, ih]

end Dialogue.Keyed
