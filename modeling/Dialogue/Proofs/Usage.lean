import Dialogue.Message

/-!
# The counters of an account

An account has four counters of tokens (`Counter`). On each of them folding a report in and
adding a later account are addition, times add nothing, and the account of a conversation is
the sum of its parts.

* `read_merge`, `read_combine`: accounts add up, counter by counter;
* `read_aggregate`: the account of a conversation is the sum of those of the assistant's
  messages, and of the current one.
-/

namespace Dialogue

/-- The counters of an account. -/
inductive Counter where
  | prompt
  | completion
  | total
  | cached
  deriving DecidableEq, Repr

namespace Counter

/-- What an account has on a counter. -/
def read : Counter → Usage → Count
  | .prompt, u => u.prompt
  | .completion, u => u.completion
  | .total, u => u.total
  | .cached, u => u.cached

/-- What accounts have on a counter together. -/
def sum (k : Counter) (us : List Usage) : Nat :=
  us.foldr (fun u n => (k.read u).val + n) 0

variable (k : Counter) (u v : Usage)

@[simp] theorem read_empty : k.read .empty = 0 := by
  cases k <;> rfl

theorem read_merge : k.read (u.merge v) = k.read u + k.read v := by
  cases k <;> rfl

theorem read_combine : k.read (u.combine v) = k.read u + k.read v := by
  cases k <;> rfl

@[simp] theorem read_ofResponse (time : Count) : k.read (.ofResponse time) = 0 := by
  cases k <;> rfl

@[simp] theorem read_ofFirstToken (time : Count) : k.read (.ofFirstToken time) = 0 := by
  cases k <;> rfl

theorem sum_cons (us : List Usage) : k.sum (u :: us) = (k.read u).val + k.sum us := rfl

theorem sum_singleton : k.sum [u] = (k.read u).val :=
  Nat.add_zero _

theorem sum_append (us vs : List Usage) : k.sum (us ++ vs) = k.sum us + k.sum vs := by
  induction us with
  | nil => exact (Nat.zero_add _).symm
  | cons u us ih => rw [List.cons_append, sum_cons, sum_cons, ih, Nat.add_assoc]

/-- Accounts that are told apart add up to all of them. -/
theorem sum_filter_not {α : Type} (f : α → Usage) (p : α → Prop) [DecidablePred p] (xs : List α) :
    k.sum (xs.map f) =
      k.sum ((xs.filter fun x => ¬p x).map f) + k.sum ((xs.filter fun x => p x).map f) := by
  induction xs with
  | nil => rfl
  | cons x xs ih =>
    by_cases hx : p x
    · simp only [List.filter_cons, hx, not_true, decide_true, decide_false, if_true, if_false,
        Bool.false_eq_true, List.map_cons, sum_cons, ih, Nat.add_left_comm]
    · simp only [List.filter_cons, hx, not_false_eq_true, decide_true, decide_false, if_true,
        if_false, Bool.false_eq_true, List.map_cons, sum_cons, ih, Nat.add_assoc]

/-- Accounts are added up to a count. -/
theorem read_combineAll (us : List Usage) :
    k.read (Usage.combineAll us) = Count.ofNat (k.sum us) := by
  -- The induction is on what is still to be added, to any account before it.
  suffices h : ∀ u, k.read (us.foldl Usage.combine u) = k.read u + Count.ofNat (k.sum us) by
    rw [Usage.combineAll, h, read_empty, Count.zero_add]
  induction us with
  | nil => exact fun u => (Count.add_zero _).symm
  | cons v us ih =>
    intro u
    rw [List.foldl_cons, ih, read_combine, sum_cons, Count.ofNat_add, Count.ofNat_val,
      Count.add_assoc]

end Counter

/-- The accounts of the assistant's messages. -/
def accountsOf (messages : List Message) : List Usage :=
  (messages.filter Message.isAssistant).filterMap Message.usage

theorem accountsOf_append (ms ns : List Message) :
    accountsOf (ms ++ ns) = accountsOf ms ++ accountsOf ns := by
  rw [accountsOf, List.filter_append, List.filterMap_append, accountsOf, accountsOf]

/-- Whether a message is being written does not matter for its account. -/
theorem accountsOf_settled (ms : List Message) :
    accountsOf (ms.map .settled) = accountsOf ms := by
  rw [accountsOf, List.filter_map, List.filterMap_map]
  rfl

namespace Counter

variable (k : Counter)

/-- What is known of the account of a message. -/
theorem sum_accountsOf_singleton {m : Message} (h : m.isAssistant = true) :
    k.sum (accountsOf [m]) = (k.read (m.usage.getD .empty)).val := by
  rw [accountsOf, List.filter_cons_of_pos h]
  cases hu : m.usage with
  | none => simp [sum, hu]
  | some u => simp [sum, hu]

theorem sum_accountsOf_user {m : Message} (h : m.isAssistant = false) :
    k.sum (accountsOf [m]) = 0 := by
  rw [accountsOf, List.filter_cons_of_neg (by rw [h]; exact Bool.noConfusion)]
  rfl

theorem read_aggregate (messages : List Message) (current : Option Usage) :
    k.read (Usage.aggregate messages current) =
      Count.ofNat (k.sum (accountsOf messages)) + k.read (current.getD .empty) := by
  cases current with
  | none =>
    rw [Option.getD_none, read_empty, Count.add_zero]
    exact k.read_combineAll _
  | some u =>
    rw [Option.getD_some, ← read_combineAll]
    exact k.read_combine _ u

end Counter

end Dialogue
