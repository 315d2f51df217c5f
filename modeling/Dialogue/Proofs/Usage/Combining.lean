import Dialogue.Proofs.Usage

/-!
# Adding accounts

Accounts are added as they follow each other: counters and generating time add up and stop at the
largest count, and of each time the later account decides. The account of nothing is neutral, and
it does not matter which accounts are added first (`Usage.combine_assoc`), so that a conversation
may be accounted in parts (`Usage.aggregate_append`), and what is in flight counts just as it does
once it is noted on a message (`Usage.aggregate_concat`).
-/

namespace Dialogue.Usage

variable {ms : List Message} {m : Message}

theorem combine_assoc (a b c : Usage) : (a.combine b).combine c = a.combine (b.combine c) := by
  simp only [combine, Count.add_assoc, Option.orElse_eq_orElse, Option.orElse_eq_or,
    Option.or_assoc]

/-- An account of nothing adds nothing. -/
theorem combine_empty (u : Usage) : u.combine .empty = u := by
  simp only [combine, empty, Count.add_zero]
  rfl

theorem empty_combine (u : Usage) : empty.combine u = u := by
  simp only [combine, empty, Count.zero_add, Option.orElse_eq_orElse, Option.orElse_eq_or,
    Option.or_none]

/-- Accounts may be added in two parts. -/
theorem combineAll_append (us vs : List Usage) :
    combineAll (us ++ vs) = (combineAll us).combine (combineAll vs) := by
  -- The induction is on the second part, with any account to start from.
  suffices h : ∀ u, vs.foldl combine u = u.combine (combineAll vs) by
    rw [combineAll, List.foldl_append, h]
    rfl
  intro u
  rw [combineAll]
  induction vs generalizing u with
  | nil => exact (combine_empty u).symm
  | cons v vs ih => rw [List.foldl_cons, List.foldl_cons, ih, ih (empty.combine v), empty_combine,
      combine_assoc]

/-! ## Conversations -/

theorem aggregate_none (ms : List Message) : aggregate ms none = combineAll (accountsOf ms) := rfl

theorem aggregate_some (ms : List Message) (u : Usage) :
    aggregate ms (some u) = (aggregate ms none).combine u := rfl

/-- A conversation may be accounted in two parts. -/
theorem aggregate_append (ms ns : List Message) :
    aggregate (ms ++ ns) none = (aggregate ms none).combine (aggregate ns none) := by
  rw [aggregate_none, accountsOf_append, combineAll_append]
  rfl

/-- What is noted on a message of the assistant. -/
theorem aggregate_singleton (h : m.isAssistant = true) :
    aggregate [m] none = m.usage.getD .empty := by
  rw [aggregate_none, accountsOf, List.filter_cons_of_pos h]
  cases hu : m.usage with
  | none => simp [hu, combineAll]
  | some u => simp [hu, combineAll, empty_combine]

/-- What is in flight counts just as it does once it is noted on the last message. -/
theorem aggregate_concat (h : m.isAssistant = true) :
    aggregate (ms ++ [m]) none = aggregate ms (some (m.usage.getD .empty)) := by
  rw [aggregate_append, aggregate_singleton h, aggregate_some]

/-- A message of the user counts for nothing. -/
theorem aggregate_concat_user (h : m.isAssistant = false) :
    aggregate (ms ++ [m]) none = aggregate ms none := by
  have hm : accountsOf [m] = [] := by
    rw [accountsOf, List.filter_cons_of_neg (by rw [h]; exact Bool.noConfusion)]
    rfl
  rw [aggregate_none, accountsOf_append, hm, List.append_nil, aggregate_none]

end Dialogue.Usage
