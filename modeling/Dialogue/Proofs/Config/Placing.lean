import Dialogue.Config
import Mathlib.Data.List.Infix

/-!
# What is put in the place of a placeholder

A path with placeholders is some parts with the placeholder between them, and what is put in its
place stands between the same parts (`Config.exists_parts`). The parts do not depend on it, so

* `intercalate_injective`: what stands between two or more parts can be told from the whole;
* `filter_intercalate`: characters that it does not have are those of the parts.
-/

namespace Dialogue.Config

section Parts

variable {α : Type} {value value' part : List α} {parts : List (List α)}

/-! ## Parts with something between them -/

theorem intercalate_cons_part (value part : List α) (a : α) (parts : List (List α)) :
    value.intercalate ((a :: part) :: parts) = a :: value.intercalate (part :: parts) := by
  cases parts with
  | nil => rw [List.intercalate_singleton, List.intercalate_singleton]
  | cons next parts =>
    rw [List.intercalate_cons_cons, List.intercalate_cons_cons, List.cons_append, List.cons_append]

theorem prefix_intercalate (value part : List α) (parts : List (List α)) :
    part <+: value.intercalate (part :: parts) := by
  cases parts with
  | nil => rw [List.intercalate_singleton]
  | cons next parts =>
    rw [List.intercalate_cons_cons, List.append_assoc]
    exact List.prefix_append _ _

theorem length_intercalate (value part : List α) (parts : List (List α)) :
    (value.intercalate (part :: parts)).length =
      (part :: parts).flatten.length + parts.length * value.length := by
  induction parts generalizing part with
  | nil => simp
  | cons next parts ih =>
    rw [List.intercalate_cons_cons, List.length_append, List.length_append, ih,
      List.flatten_cons (L := next :: parts), List.length_append, List.length_cons, Nat.succ_mul]
    omega

/-- What stands between parts can be told from the whole, if there are at least two of them. -/
theorem intercalate_injective (h : 2 ≤ parts.length)
    (he : value.intercalate parts = value'.intercalate parts) : value = value' := by
  match parts, h with
  | part :: next :: parts, _ =>
    -- It is as long, since it stands there as often, and it comes first after the first part.
    have hl : value.length = value'.length := by
      have hl := congrArg List.length he
      rw [length_intercalate, length_intercalate, Nat.add_left_cancel_iff] at hl
      exact Nat.eq_of_mul_eq_mul_left (Nat.succ_pos _) hl
    rw [List.intercalate_cons_cons, List.intercalate_cons_cons, List.append_assoc,
      List.append_assoc] at he
    exact (List.append_inj (List.append_cancel_left he) hl).1

/-- What is left out of the whole is left out of the parts and of what stands between them. -/
theorem filter_intercalate (p : α → Bool) (value : List α) (parts : List (List α)) :
    (value.intercalate parts).filter p =
      (value.filter p).intercalate (parts.map (List.filter p)) := by
  induction parts with
  | nil => rfl
  | cons part parts ih =>
    cases parts with
    | nil => rw [List.intercalate_singleton, List.map_singleton, List.intercalate_singleton]
    | cons next parts =>
      rw [List.intercalate_cons_cons, List.filter_append, List.filter_append, ih]
      simp only [List.map_cons, List.intercalate_cons_cons]

end Parts

/-! ## The parts around placeholders -/

variable {placeholder path after part : List Char} {c : Char} {parts : List (List Char)}

/-- A path is cut at its placeholders, and there are no others. -/
structure CutAt (placeholder path : List Char) (parts : List (List Char)) : Prop where
  joined : placeholder.intercalate parts = path
  free : ∀ part ∈ parts, ¬placeholder <:+: part

theorem cutAt_nil (hp : placeholder ≠ []) : CutAt placeholder [] [[]] where
  joined := rfl
  free := List.forall_mem_singleton.2 (mt List.infix_nil.1 hp)

/-- A placeholder in front has nothing before it. -/
theorem CutAt.front (h : CutAt placeholder after (part :: parts)) (hp : placeholder ≠ []) :
    CutAt placeholder (placeholder ++ after) ([] :: part :: parts) where
  joined := by rw [List.intercalate_cons_cons, h.joined, List.nil_append]
  free := List.forall_mem_cons.2 ⟨mt List.infix_nil.1 hp, h.free⟩

/-- Without a placeholder in front, the first character belongs to the first part. -/
theorem CutAt.cons (h : CutAt placeholder path (part :: parts))
    (hn : ¬placeholder <+: c :: path) : CutAt placeholder (c :: path) ((c :: part) :: parts) where
  joined := by rw [intercalate_cons_part, h.joined]
  free := by
    obtain ⟨hpart, hparts⟩ := List.forall_mem_cons.1 h.free
    refine List.forall_mem_cons.2 ⟨fun hi => ?_, hparts⟩
    rcases List.infix_cons_iff.1 hi with hi | hi
    · have hpre : part <+: path := h.joined ▸ prefix_intercalate placeholder part parts
      exact hn (hi.trans (List.cons_prefix_cons.2 ⟨rfl, hpre⟩))
    · exact hpart hi

/-- If there is a placeholder, there are at least two parts around it. -/
theorem CutAt.two_le_length (h : CutAt placeholder path parts) (hne : parts ≠ [])
    (hi : placeholder <:+: path) : 2 ≤ parts.length := by
  match parts, hne with
  | [part], _ =>
    have hj : part = path := List.intercalate_singleton.symm.trans h.joined
    exact absurd (hj ▸ hi) (h.free part List.mem_cons_self)
  | _ :: _ :: _, _ => exact Nat.le_add_left 2 _

/-- Paths are cut at placeholders, whatever is put in their place. -/
theorem exists_parts (hp : placeholder ≠ []) {fuel : Nat} (hf : path.length ≤ fuel) :
    ∃ part parts, CutAt placeholder path (part :: parts) ∧
      ∀ value, substituteFrom placeholder value fuel path = value.intercalate (part :: parts) := by
  -- On the fuel: each step leaves a shorter path, so it is not used up before the path is.
  induction fuel generalizing path with
  | zero =>
    obtain rfl := List.eq_nil_of_length_eq_zero (Nat.le_zero.1 hf)
    exact ⟨[], [], cutAt_nil hp, fun _ => rfl⟩
  | succ fuel ih =>
    cases path with
    | nil => exact ⟨[], [], cutAt_nil hp, fun _ => rfl⟩
    | cons c rest =>
      by_cases hpre : placeholder <+: c :: rest
      · -- The value comes in the place of the placeholder, and what is behind it is cut on.
        obtain ⟨after, ha⟩ := hpre
        have hlen : after.length ≤ fuel := by
          have hl := congrArg List.length ha
          have := List.length_pos_of_ne_nil hp
          rw [List.length_append] at hl
          omega
        obtain ⟨part, parts, hc, hs⟩ := ih hlen
        refine ⟨[], part :: parts, ha ▸ hc.front hp, fun value => ?_⟩
        have hif : placeholder.isPrefixOf (c :: rest) = true :=
          List.isPrefixOf_iff_prefix.2 ⟨after, ha⟩
        rw [substituteFrom, if_pos hif, ← ha, List.drop_left, hs, List.intercalate_cons_cons,
          List.nil_append]
      · obtain ⟨part, parts, hc, hs⟩ := ih (Nat.le_of_succ_le_succ hf)
        refine ⟨c :: part, parts, hc.cons hpre, fun value => ?_⟩
        have hif : ¬placeholder.isPrefixOf (c :: rest) = true :=
          fun hi => hpre (List.isPrefixOf_iff_prefix.1 hi)
        rw [substituteFrom, if_neg hif, hs, intercalate_cons_part]

end Dialogue.Config
