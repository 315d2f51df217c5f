import Dialogue.Json.Tree
import Mathlib.Data.List.Induction

/-!
# Values in order

A value that a program holds has each key of an object once, and the members stand in the order
of their keys, all the way down (`Value.Ordered`). These are the values that trees have, and such
a value is not changed when it is taken as a tree and read again. Members may be given in any
order, since each is put in its place.

* `perm_insertAll`: members with different keys are put in order, and nothing else is done to
  them;
* `ordered_of_value?`: what is read is in order;
* `value?_toTree`: what is in order is read as it was.
-/

namespace Dialogue.Json

/-- A value in which the members of each object stand in the order of their keys. -/
inductive Value.Ordered : Value → Prop
  | null : Ordered .null
  | bool (b : Bool) : Ordered (.bool b)
  | number (n : Number) : Ordered (.number n)
  | string (s : String) : Ordered (.string s)
  | array {items : List Value} : (∀ v ∈ items, v.Ordered) → Ordered (.array items)
  | object {members : List (String × Value)} : members.Pairwise (·.1 < ·.1) →
      (∀ m ∈ members, m.2.Ordered) → Ordered (.object members)

attribute [simp] Value.Ordered.null Value.Ordered.bool Value.Ordered.number Value.Ordered.string

@[simp] theorem Value.ordered_ofOption {α : Type} {write : α → Value} {o : Option α} :
    (Value.ofOption write o).Ordered ↔ ∀ a ∈ o, (write a).Ordered := by
  cases o <;> simp [ofOption]

/-! ## Members in their places -/

namespace Members

variable {key : String} {value : Value} {members : List (String × Value)}

theorem mem_insert {m : String × Value} (h : m ∈ insert key value members) :
    m = (key, value) ∨ m ∈ members := by
  induction members with
  | nil => exact .inl (List.mem_singleton.1 h)
  | cons m' rest ih =>
    rw [insert] at h
    split_ifs at h
    · exact List.mem_cons.1 h
    · exact (List.mem_cons.1 h).imp_right (List.mem_cons_of_mem _)
    · rcases List.mem_cons.1 h with rfl | h
      · exact .inr List.mem_cons_self
      · exact (ih h).imp_right (List.mem_cons_of_mem _)

theorem ordered_insert (h : members.Pairwise (·.1 < ·.1)) :
    (insert key value members).Pairwise (·.1 < ·.1) := by
  induction members with
  | nil => exact List.pairwise_singleton _ _
  | cons m rest ih =>
    obtain ⟨hm, hr⟩ := List.pairwise_cons.1 h
    rw [insert]
    split_ifs with hlt heq
    · refine List.pairwise_cons.2 ⟨List.forall_mem_cons.2 ⟨hlt, fun m' hm' => ?_⟩, h⟩
      exact String.lt_trans hlt (hm m' hm')
    · subst heq
      exact List.pairwise_cons.2 ⟨hm, hr⟩
    · refine List.pairwise_cons.2 ⟨fun m' hm' => ?_, ih hr⟩
      rcases mem_insert hm' with rfl | hm'
      · exact String.not_le.1 fun hle => heq (String.le_antisymm hle (String.not_lt.1 hlt))
      · exact hm m' hm'

/-- A key that comes after all others goes to the end. -/
theorem insert_of_forall_lt (h : ∀ m ∈ members, m.1 < key) :
    insert key value members = members ++ [(key, value)] := by
  induction members with
  | nil => rfl
  | cons m rest ih =>
    obtain ⟨hm, hr⟩ := List.forall_mem_cons.1 h
    have hlt : ¬key < m.1 := fun hk => String.lt_irrefl _ (String.lt_trans hk hm)
    have hne : key ≠ m.1 := fun hk => String.lt_irrefl _ (hk ▸ hm)
    rw [insert, if_neg hlt, if_neg hne, ih hr, List.cons_append]

/-- A new key is put in its place. -/
theorem perm_insert (h : key ∉ members.map (·.1)) :
    (insert key value members).Perm ((key, value) :: members) := by
  induction members with
  | nil => exact .refl _
  | cons m rest ih =>
    rw [List.map_cons, List.mem_cons, not_or] at h
    rw [insert, if_neg h.1]
    split_ifs
    · exact .refl _
    · exact ((ih h.2).cons m).trans (.swap (key, value) m rest)

/-- Members with different keys are put in order, and nothing else is done to them. -/
theorem perm_insertAll (h : (members.map (·.1)).Nodup) : (insertAll [] members).Perm members := by
  induction members using List.reverseRecOn with
  | nil => exact .refl _
  | append_singleton before m ih =>
    rw [List.map_append, List.nodup_append] at h
    obtain ⟨hb, -, hd⟩ := h
    have hp : (insertAll [] before).Perm before := ih hb
    have hm : m.1 ∉ (insertAll [] before).map (·.1) := fun hm =>
      hd _ ((hp.map _).mem_iff.1 hm) _ List.mem_cons_self rfl
    have hi : insertAll [] (before ++ [m]) = insert m.1 m.2 (insertAll [] before) :=
      List.foldl_append
    rw [hi]
    exact ((perm_insert hm).trans (hp.cons m)).trans (List.perm_append_singleton m before).symm

theorem ordered_insertAll (members : List (String × Value)) :
    (insertAll [] members).Pairwise (·.1 < ·.1) := by
  induction members using List.reverseRecOn with
  | nil => exact .nil
  | append_singleton before m ih =>
    rw [insertAll, List.foldl_append]
    exact ordered_insert ih

theorem mem_insertAll {m : String × Value} (h : m ∈ insertAll [] members) : m ∈ members := by
  induction members using List.reverseRecOn with
  | nil => exact h
  | append_singleton before m' ih =>
    rw [insertAll, List.foldl_append] at h
    rcases mem_insert h with rfl | h
    · exact List.mem_append_right _ List.mem_cons_self
    · exact List.mem_append_left _ (ih h)

end Members

/-- An object may be given by its members in any order. -/
theorem Value.ordered_ofMembers {members : List (String × Value)}
    (h : ∀ m ∈ members, m.2.Ordered) : (Value.ofMembers members).Ordered :=
  .object (Members.ordered_insertAll members) fun m hm => h m (Members.mem_insertAll hm)

/-- Two members that are given in the wrong order. -/
theorem Value.ofMembers_pair_swapped {k l : String} {v w : Value} (h : l < k) :
    ofMembers [(k, v), (l, w)] = .object [(l, w), (k, v)] := by
  rw [ofMembers, Members.insertAll, List.foldl_cons, List.foldl_cons, List.foldl_nil,
    Members.insert, Members.insert, if_pos h]

/-! ## Values and trees -/

open Dialogue.Json.Tree

mutual

/-- What is read is in order. -/
theorem ordered_of_value? {t : Tree} {v : Value} (h : t.value? = some v) : v.Ordered := by
  cases t with
  | null =>
    obtain rfl := Option.some.inj h
    exact .null
  | bool b =>
    obtain rfl := Option.some.inj h
    exact .bool b
  | number n =>
    obtain rfl := Option.some.inj h
    exact .number n
  | string s =>
    obtain rfl := Option.some.inj h
    exact .string s
  | array ts =>
    obtain ⟨vs, hv, rfl⟩ := Option.map_eq_some_iff.1 h
    exact .array (ordered_of_values? hv)
  | object ms =>
    obtain ⟨members, hm, rfl⟩ := Option.map_eq_some_iff.1 h
    obtain ⟨hp, ho⟩ := ordered_of_memberValues? hm .nil (List.forall_mem_nil _)
    exact .object hp ho
  | unreadable => cases h

theorem ordered_of_values? {ts : List Tree} {vs : List Value} (h : values? ts = some vs) :
    ∀ v ∈ vs, v.Ordered := by
  cases ts with
  | nil =>
    obtain rfl := Option.some.inj h
    exact List.forall_mem_nil _
  | cons t ts =>
    rw [values?] at h
    split at h
    · cases h
    · next hv =>
      obtain ⟨vs, hvs, rfl⟩ := Option.map_eq_some_iff.1 h
      exact List.forall_mem_cons.2 ⟨ordered_of_value? hv, ordered_of_values? hvs⟩

theorem ordered_of_memberValues? {acc members : List (String × Value)}
    {ms : List (Option String × Tree)} (h : memberValues? acc ms = some members)
    (hp : acc.Pairwise (·.1 < ·.1)) (ho : ∀ m ∈ acc, m.2.Ordered) :
    members.Pairwise (·.1 < ·.1) ∧ ∀ m ∈ members, m.2.Ordered := by
  cases ms with
  | nil =>
    obtain rfl := Option.some.inj h
    exact ⟨hp, ho⟩
  | cons m ms =>
    obtain ⟨_ | key, t⟩ := m
    · cases h
    · rw [memberValues?] at h
      split at h
      · cases h
      · next v hv =>
        have hv : v.Ordered := ordered_of_value? hv
        refine ordered_of_memberValues? h (Members.ordered_insert hp) fun m hm => ?_
        rcases Members.mem_insert hm with rfl | hm
        · exact hv
        · exact ho m hm

end

theorem values?_toTrees {vs : List Value} (h : ∀ v ∈ vs, v.toTree.value? = some v) :
    values? (Value.toTrees vs) = some vs := by
  induction vs with
  | nil => rfl
  | cons v vs ih =>
    rw [List.forall_mem_cons] at h
    rw [Value.toTrees, values?, h.1, ih h.2]
    rfl

/-- Members in order are put one after the other. -/
theorem memberValues?_toMembers {acc members : List (String × Value)}
    (hp : (acc ++ members).Pairwise (·.1 < ·.1))
    (h : ∀ m ∈ members, m.2.toTree.value? = some m.2) :
    memberValues? acc (Value.toMembers members) = some (acc ++ members) := by
  induction members generalizing acc with
  | nil =>
    rw [List.append_nil]
    rfl
  | cons m members ih =>
    obtain ⟨key, v⟩ := m
    rw [List.forall_mem_cons] at h
    have hlt : ∀ m ∈ acc, m.1 < key := fun m hm =>
      (List.pairwise_append.1 hp).2.2 m hm _ List.mem_cons_self
    rw [List.append_cons] at hp ⊢
    rw [Value.toMembers, memberValues?, h.1]
    simp only
    rw [Members.insert_of_forall_lt hlt, ih hp h.2]

/-- A value in order is read as it was. -/
theorem value?_toTree {v : Value} (h : v.Ordered) : v.toTree.value? = some v := by
  induction h with
  | null | bool | number | string => rfl
  | array _ ih => rw [Value.toTree, value?, values?_toTrees ih, Option.map_some]
  | @object members hp _ ih =>
    have hm : memberValues? [] (Value.toMembers members) = some ([] ++ members) :=
      memberValues?_toMembers hp ih
    rw [Value.toTree, value?, hm, Option.map_some, List.nil_append]

end Dialogue.Json
