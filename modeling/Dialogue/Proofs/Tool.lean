import Dialogue.Tool
import Mathlib.Data.List.Induction

/-!
# What updates of a call come to

An update says nothing of the fields that it does not carry, so what is known of a call after
several updates is told field by field: each holds what the last update that carries it says
(`ToolUpdate.lastOf`), and else what it held before.

* `mergeAll_eq`: the fields of a call after updates;
* `mergeAll_mergeAll`: so the same updates, once more, change nothing, although those in between
  may say something else;
* `ofUpdate_eq_merge`: a call begins like one of which nothing is known, with its first update.
-/

namespace Dialogue

/-- What the last update that carries a field says of it. -/
def ToolUpdate.lastOf {α : Type} (field : ToolUpdate → Option α) (us : List ToolUpdate) :
    Option α :=
  (us.filterMap field).getLast?

namespace ToolUpdate

variable {α : Type}

theorem lastOf_concat (field : ToolUpdate → Option α) (us : List ToolUpdate) (u : ToolUpdate) :
    lastOf field (us ++ [u]) = (field u <|> lastOf field us) := by
  rw [lastOf, List.filterMap_append]
  cases h : field u with
  | none =>
    rw [List.filterMap_cons_none h, List.filterMap_nil, List.append_nil]
    rfl
  | some a =>
    rw [List.filterMap_cons_some h, List.filterMap_nil, List.getLast?_concat]
    rfl

end ToolUpdate

namespace ToolExecution

open ToolUpdate

/-- Merge updates, one after the other. -/
def mergeAll (e : ToolExecution) (us : List ToolUpdate) : ToolExecution :=
  us.foldl merge e

theorem mergeAll_concat (e : ToolExecution) (us : List ToolUpdate) (u : ToolUpdate) :
    e.mergeAll (us ++ [u]) = (e.mergeAll us).merge u := by
  rw [mergeAll, List.foldl_append]
  rfl

/-- Every field holds what the last update that carries it says, and else what it held before. -/
theorem mergeAll_eq (e : ToolExecution) (us : List ToolUpdate) : e.mergeAll us = {
    callId := e.callId
    name := (lastOf (·.name) us).getD e.name
    title := lastOf (·.title) us <|> e.title
    arguments := (lastOf (·.arguments) us).getD e.arguments
    status := (lastOf (·.status) us).getD e.status
    result := lastOf (·.result) us <|> e.result
    error := lastOf (·.error) us <|> e.error
    requiresApproval := (lastOf (·.requiresApproval) us).getD e.requiresApproval } := by
  induction us using List.reverseRecOn with
  | nil => rfl
  | append_singleton us u ih =>
    rw [mergeAll_concat, ih, merge]
    simp only [lastOf_concat, Option.orElse_eq_orElse, Option.orElse_eq_or, Option.or_assoc,
      Option.getD_or]

/-- The same updates once more change nothing. -/
theorem mergeAll_mergeAll (e : ToolExecution) (us : List ToolUpdate) :
    (e.mergeAll us).mergeAll us = e.mergeAll us := by
  have or_or {α : Type} (o o' : Option α) : o.or (o.or o') = o.or o' := by
    rw [← Option.or_assoc, Option.or_self]
  have getD_getD {α : Type} (o : Option α) (a : α) : o.getD (o.getD a) = o.getD a := by
    rw [← Option.getD_or, Option.or_self]
  simp only [mergeAll_eq, Option.orElse_eq_orElse, Option.orElse_eq_or, or_or, getD_getD]

/-- A call begins like one of which nothing is known: pending, until its first update is merged. -/
theorem ofUpdate_eq_merge (u : ToolUpdate) :
    ofUpdate u (u.status.getD .pending) = (bare u.callId .pending).merge u := by
  rw [ofUpdate, merge, merge, bare, bare]
  cases u.status <;> rfl

end ToolExecution

end Dialogue
