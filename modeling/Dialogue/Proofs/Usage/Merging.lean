import Dialogue.Proofs.Usage.Combining
import Mathlib.Data.List.Induction

/-!
# Folding reports in

The account of a running turn is that of its reports, folded in one after the other. A report may
carry any counters and times, so an account is told field by field:

* `read_mergeAll`: a counter is the sum of the reports, in whatever order they come;
* `firstToken_mergeAll`, `response_mergeAll`: of each time, the last report that carries it decides;
* `generation_mergeAll`: the generating time is the sum of what the response times exceed the
  first-token times known with them (`excess`). It is the one sum to which the order matters.

What is added up stops at the largest count. It only grows, and reports that are folded in in two
parts have the same counters and times as if they were folded in at once (`reports_accumulate`).
-/

namespace Dialogue

theorem Count.val_le_add (a b : Count) : a.val ≤ (a + b).val := by
  rw [Count.val_add, Count.val_max]
  have := a.val_lt
  omega

theorem Counter.sum_perm (k : Counter) {us vs : List Usage} (h : us.Perm vs) :
    k.sum us = k.sum vs := by
  induction h with
  | nil => rfl
  | cons u _ ih => rw [sum_cons, sum_cons, ih]
  | swap u v us => rw [sum_cons, sum_cons, sum_cons, sum_cons, Nat.add_left_comm]
  | trans _ _ ih ih' => exact ih.trans ih'

namespace Usage

/-- By how much the response time of a report exceeds the last first-token time known with it:
    nothing if it does not, or if one of them is not known. -/
def excess (before : List Usage) (d : Usage) : Nat :=
  match d.response, ((before ++ [d]).filterMap (·.firstToken)).getLast? with
  | some response, some first =>
    if first.val < response.val then response.val - first.val else 0
  | _, _ => 0

/-- By how much the response times of reports exceed the first-token times together. -/
def excesses (before : List Usage) : List Usage → Nat
  | [] => 0
  | d :: ds => excess before d + excesses (before ++ [d]) ds

variable (ds es : List Usage) (d : Usage) (k : Counter)

theorem mergeAll_concat : mergeAll (ds ++ [d]) = (mergeAll ds).merge d := by
  rw [mergeAll, List.foldl_append]
  rfl

theorem read_mergeAll : k.read (mergeAll ds) = Count.ofNat (k.sum ds) := by
  induction ds using List.reverseRecOn with
  | nil => exact k.read_empty
  | append_singleton ds d ih =>
    rw [mergeAll_concat, k.read_merge, ih, k.sum_append, k.sum_singleton, Count.ofNat_add,
      Count.ofNat_val]

/-! ## Times -/

variable {α : Type} (field : Usage → Option α)

/-- What the last of some reports says comes before what earlier ones say. -/
theorem getLast?_filterMap_append :
    ((ds ++ es).filterMap field).getLast? =
      ((es.filterMap field).getLast? <|> (ds.filterMap field).getLast?) := by
  rw [List.filterMap_append, List.getLast?_append, Option.orElse_eq_orElse, Option.orElse_eq_or]

theorem getLast?_filterMap_concat :
    ((ds ++ [d]).filterMap field).getLast? = (field d <|> (ds.filterMap field).getLast?) := by
  rw [getLast?_filterMap_append]
  cases h : field d with
  | none => rw [List.filterMap_cons_none h]; rfl
  | some a => rw [List.filterMap_cons_some h]; rfl

theorem firstToken_mergeAll :
    (mergeAll ds).firstToken = (ds.filterMap (·.firstToken)).getLast? := by
  induction ds using List.reverseRecOn with
  | nil => rfl
  | append_singleton ds d ih =>
    rw [mergeAll_concat, getLast?_filterMap_concat, ← ih]
    rfl

theorem response_mergeAll : (mergeAll ds).response = (ds.filterMap (·.response)).getLast? := by
  induction ds using List.reverseRecOn with
  | nil => rfl
  | append_singleton ds d ih =>
    rw [mergeAll_concat, getLast?_filterMap_concat, ← ih]
    rfl

/-! ## The generating time -/

theorem excesses_append (before : List Usage) :
    excesses before (ds ++ es) = excesses before ds + excesses (before ++ ds) es := by
  induction ds generalizing before with
  | nil => rw [List.append_nil]; exact (Nat.zero_add _).symm
  | cons d ds ih => rw [List.cons_append, excesses, excesses, ih, List.append_assoc,
      List.singleton_append, Nat.add_assoc]

theorem excesses_singleton (before : List Usage) : excesses before [d] = excess before d :=
  Nat.add_zero _

/-- The time that a report adds is what its response time exceeds the time known with it. -/
theorem generated_eq : d.generated (d.firstToken <|> (mergeAll ds).firstToken) =
    Count.ofNat (excess ds d) := by
  rw [firstToken_mergeAll, ← getLast?_filterMap_concat]
  unfold generated excess
  cases d.response with
  | none => rfl
  | some response =>
    cases ((ds ++ [d]).filterMap (·.firstToken)).getLast? with
    | none => rfl
    | some first =>
      have hr := response.val_lt
      ext
      simp only [Count.above, Count.val_ofNat, Count.val_max]
      split <;> omega

theorem generation_mergeAll : (mergeAll ds).generation = Count.ofNat (excesses [] ds) := by
  induction ds using List.reverseRecOn with
  | nil => rfl
  | append_singleton ds d ih =>
    rw [mergeAll_concat, excesses_append, excesses_singleton, List.nil_append, Count.ofNat_add,
      ← ih, ← generated_eq]
    rfl

/-! ## Parts -/

/-- What reports come to, folded in one after the other, is told field by field. Counters and the
    generating time stop at the largest count, no response time is less than what is taken from
    it, and later reports only add to what is there. If reports are folded in in two parts, both
    together have their counters and times. -/
theorem reports_accumulate (ds : List Usage) :
    (∀ k : Counter, k.read (mergeAll ds) = Count.ofNat (k.sum ds) ∧
      ∀ es, ds.Perm es → k.read (mergeAll es) = k.read (mergeAll ds)) ∧
    (mergeAll ds).firstToken = (ds.filterMap (·.firstToken)).getLast? ∧
    (mergeAll ds).response = (ds.filterMap (·.response)).getLast? ∧
    (mergeAll ds).generation = Count.ofNat (excesses [] ds) ∧
    ∀ es,
      (∀ k : Counter, (k.read (mergeAll ds)).val ≤ (k.read (mergeAll (ds ++ es))).val) ∧
      (mergeAll ds).generation.val ≤ (mergeAll (ds ++ es)).generation.val ∧
      (∀ k : Counter,
        k.read ((mergeAll ds).combine (mergeAll es)) = k.read (mergeAll (ds ++ es))) ∧
      ((mergeAll ds).combine (mergeAll es)).firstToken = (mergeAll (ds ++ es)).firstToken ∧
      ((mergeAll ds).combine (mergeAll es)).response = (mergeAll (ds ++ es)).response := by
  have hk (es : List Usage) (k : Counter) :
      k.read (mergeAll (ds ++ es)) = k.read (mergeAll ds) + k.read (mergeAll es) := by
    rw [read_mergeAll, read_mergeAll, read_mergeAll, k.sum_append, Count.ofNat_add]
  refine ⟨fun k => ⟨read_mergeAll ds k, fun es hp => ?_⟩, firstToken_mergeAll ds,
    response_mergeAll ds, generation_mergeAll ds, fun es => ⟨fun k => ?_, ?_, fun k => ?_, ?_, ?_⟩⟩
  · rw [read_mergeAll, read_mergeAll, k.sum_perm hp]
  · rw [hk]
    exact Count.val_le_add _ _
  · rw [generation_mergeAll, generation_mergeAll, excesses_append, Count.ofNat_add]
    exact Count.val_le_add _ _
  · rw [k.read_combine, hk]
  · rw [firstToken_mergeAll, getLast?_filterMap_append, ← firstToken_mergeAll,
      ← firstToken_mergeAll]
    rfl
  · rw [response_mergeAll, getLast?_filterMap_append, ← response_mergeAll, ← response_mergeAll]
    rfl

/-- The second response time exceeds a first-token time that only the first report carries, so it
    counts if both are folded in in this order. The counters do not mind. -/
theorem reports_accumulate_swapped :
    let early : Usage := { prompt := Count.max, firstToken := some 40 }
    let late : Usage := { prompt := 3, response := some 100 }
    [early, late].Perm [late, early] ∧ (mergeAll [early, late]).generation = 60 ∧
      (mergeAll [late, early]).generation = 0 ∧
      (Counter.prompt.read (mergeAll [late, early])) =
        Counter.prompt.read (mergeAll [early, late]) := by
  intro early late
  have hp : [early, late].Perm [late, early] := List.Perm.swap late early []
  obtain ⟨hk, _⟩ := reports_accumulate [early, late]
  exact ⟨hp, by decide, by decide, (hk .prompt).2 _ hp⟩

end Usage

end Dialogue
