/-!
# Cutting input into items

Input that comes in pieces is cut into items: octets into characters, characters into
lines, lines into blocks. A `Cutter` says how the first item is taken off the front, if
all of it has come. More input does not change an item that was taken (`stable`), so it
does not matter when the cutting is done.

* `cut_append`: cutting one piece and then, with what it left, another gives the items
  of both together;
* `cut_left`: what is left holds no further item;
* `Terminator.cutter`: items that are told by how they end.
-/

namespace Dialogue

/-- How the first item is taken off the front of the input, if it is complete. -/
structure Cutter (α β : Type) where
  /-- The first item and what follows it. -/
  next? : List α → Option (β × List α)
  shorter : ∀ {xs b rest}, next? xs = some (b, rest) → rest.length < xs.length
  stable : ∀ {xs b rest} (more), next? xs = some (b, rest) →
    next? (xs ++ more) = some (b, rest ++ more)

namespace Cutter

variable {α β : Type}

/-- All complete items, and what is left of the input. -/
def cut (k : Cutter α β) (xs : List α) : List β × List α :=
  match _h : k.next? xs with
  | none => ([], xs)
  | some (b, rest) =>
    let (bs, left) := k.cut rest
    (b :: bs, left)
termination_by xs.length
decreasing_by exact k.shorter _h

variable (k : Cutter α β) {xs rest : List α} {b : β}

theorem cut_of_none (h : k.next? xs = none) : k.cut xs = ([], xs) := by
  rw [cut]
  split
  · rfl
  · next h' => rw [h] at h'; cases h'

theorem cut_of_some (h : k.next? xs = some (b, rest)) :
    k.cut xs = (b :: (k.cut rest).1, (k.cut rest).2) := by
  rw [cut]
  split
  · next h' => rw [h] at h'; cases h'
  · next h' =>
    rw [h] at h'
    cases h'
    rfl

theorem cut_left (xs : List α) : k.next? (k.cut xs).2 = none := by
  fun_induction cut k xs with
  | case1 xs h => exact h
  | case2 xs b rest h bs left e ih => rwa [e] at ih

/-- What was left is put in front of what comes next. -/
theorem cut_append (xs ys : List α) :
    k.cut (xs ++ ys) =
      ((k.cut xs).1 ++ (k.cut ((k.cut xs).2 ++ ys)).1, (k.cut ((k.cut xs).2 ++ ys)).2) := by
  fun_induction cut k xs with
  | case1 xs h => rfl
  | case2 xs b rest h bs left e ih =>
    rw [k.cut_of_some (k.stable ys h), ih, e]
    rfl

theorem cut_nil : k.cut [] = ([], []) := by
  cases h : k.next? [] with
  | none => exact k.cut_of_none h
  | some r => exact absurd (k.shorter h) (Nat.not_lt_zero _)

end Cutter

/-! ## Items with an end -/

/-- What ends an item: how an end begins, and what follows it if all of it has come. -/
structure Terminator (α : Type) where
  isEnd : α → Bool
  after? : List α → Option (List α)
  after?_nil : after? [] = none
  shorter : ∀ {xs rest}, after? xs = some rest → rest.length < xs.length
  stable : ∀ {xs rest} (more), after? xs = some rest → after? (xs ++ more) = some (rest ++ more)

namespace Terminator

variable {α : Type} (t : Terminator α) {xs : List α}

/-- The items that stand before the ends. -/
def cutter : Cutter α (List α) where
  next? xs := (t.after? (xs.dropWhile (!t.isEnd ·))).map (xs.takeWhile (!t.isEnd ·), ·)
  shorter {xs} b rest h := by
    obtain ⟨after, ha, he⟩ := Option.map_eq_some_iff.1 h
    cases he
    exact Nat.lt_of_lt_of_le (t.shorter ha) (List.dropWhile_suffix _).length_le
  stable {xs} b rest more h := by
    obtain ⟨after, ha, he⟩ := Option.map_eq_some_iff.1 h
    cases he
    -- The end has begun, so what follows does not belong to the item.
    have begun : xs.dropWhile (!t.isEnd ·) ≠ [] := by
      intro hnil
      rw [hnil, t.after?_nil] at ha
      cases ha
    have hlen : (xs.takeWhile (!t.isEnd ·)).length ≠ xs.length := by
      intro hlen
      have := congrArg List.length (List.takeWhile_append_dropWhile (p := (!t.isEnd ·)) (l := xs))
      rw [List.length_append, hlen, Nat.add_eq_left, List.length_eq_zero_iff] at this
      exact begun this
    rw [List.dropWhile_append, if_neg (by rwa [List.isEmpty_iff]), List.takeWhile_append,
      if_neg hlen, t.stable more ha]
    rfl

theorem next?_cutter : t.cutter.next? xs =
    (t.after? (xs.dropWhile (!t.isEnd ·))).map (xs.takeWhile (!t.isEnd ·), ·) := rfl

/-- What holds no end belongs to the item that is still to be completed. -/
theorem next?_append (h : ∀ a ∈ xs, t.isEnd a = false) (ys : List α) :
    t.cutter.next? (xs ++ ys) =
      (t.cutter.next? ys).map fun (item, rest) => (xs ++ item, rest) := by
  have h' : ∀ a ∈ xs, (!t.isEnd a) = true := fun a ha => by rw [h a ha]; rfl
  rw [next?_cutter, next?_cutter, List.dropWhile_append_of_pos h', List.takeWhile_append_of_pos h',
    Option.map_map]
  rfl

/-- Items that were put together with an end after each are cut again where they end. -/
theorem cut_flatMap {ending : List α}
    (he : ∀ rest, t.cutter.next? (ending ++ rest) = some ([], rest)) {items : List (List α)}
    (h : ∀ item ∈ items, ∀ a ∈ item, t.isEnd a = false) :
    t.cutter.cut (items.flatMap (· ++ ending)) = (items, []) := by
  induction items with
  | nil => exact t.cutter.cut_nil
  | cons item items ih =>
    obtain ⟨hi, his⟩ := List.forall_mem_cons.1 h
    have hnext : t.cutter.next? ((item :: items).flatMap (· ++ ending)) =
        some (item, items.flatMap (· ++ ending)) := by
      rw [List.flatMap_cons, List.append_assoc, t.next?_append hi, he]
      exact congrArg (fun l => some (l, _)) (List.append_nil item)
    rw [t.cutter.cut_of_some hnext, ih his]

end Terminator

end Dialogue
