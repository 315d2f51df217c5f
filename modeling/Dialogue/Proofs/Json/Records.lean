import Dialogue.Json.Reader
import Dialogue.Proofs.Json.Ordered
import Mathlib.Data.List.Pairwise

/-!
# Records that were written

A record is written as an object with one member for each field, under one of the spellings that
the reader knows. The object has its members in another order, and members that belong to no
field of the reader. If no two members are of one field (`Apart`), the reader finds in each field
what was written for it.

* `fields?_object_iff`: what the fields of an object are, told by what each is given (`under`);
* `fields?_ofMembers`: the fields of a record that was written;
* `optional?_ofOption`, `optional?_map`: nothing is read as nothing, whether it was written as
  `null` or left out.
-/

namespace Dialogue.Json

open Dialogue.Json.Tree

/-- Two keys that are not spellings of one field. -/
def Apart (spellings : List (List String)) (key key' : String) : Prop :=
  key ≠ key' ∧ ∀ names ∈ spellings, key ∈ names → key' ∉ names

instance (spellings : List (List String)) : DecidableRel (Apart spellings) :=
  fun _ _ => inferInstanceAs (Decidable (_ ∧ _))

/-- No name is a spelling of two fields. -/
def Distinct (spellings : List (List String)) : Prop :=
  spellings.Pairwise fun names names' => ∀ name ∈ names, name ∉ names'

instance (spellings : List (List String)) : Decidable (Distinct spellings) :=
  inferInstanceAs (Decidable (List.Pairwise _ _))

/-- The member of a field. -/
def Members.ofField? (names : List String) (members : List (String × Value)) :
    Option (String × Value) :=
  members.find? fun m => names.contains m.1

variable {spellings : List (List String)} {members members' : List (String × Value)}

theorem Apart.symm {key key' : String} (h : Apart spellings key key') :
    Apart spellings key' key :=
  ⟨h.1.symm, fun names hn hk' hk => h.2 names hn hk hk'⟩

/-- In whatever order the members come, if there is at most one of a field it is found. -/
theorem Members.ofField?_perm (hp : members.Perm members') {names : List String}
    (hn : names ∈ spellings) (ha : members.Pairwise fun m m' => Apart spellings m.1 m'.1) :
    ofField? names members = ofField? names members' := by
  unfold ofField?
  induction hp with
  | nil => rfl
  | cons m _ ih => rw [List.find?_cons, List.find?_cons, ih ha.tail]
  | swap m m' rest =>
    -- Of two members that change places, one at most is of the field.
    have hm : m'.1 ∈ names → m.1 ∉ names :=
      ((List.pairwise_cons.1 ha).1 m List.mem_cons_self).2 _ hn
    rw [List.find?_cons, List.find?_cons, List.find?_cons, List.find?_cons]
    grind
  | trans hp _ ih ih' =>
    exact (ih ha).trans (ih' (hp.pairwise ha Apart.symm))

@[simp] theorem Members.ofField?_nil (names : List String) : ofField? names [] = none := rfl

@[simp] theorem Members.ofField?_cons (names : List String) (m : String × Value) :
    ofField? names (m :: members) = if m.1 ∈ names then some m else ofField? names members := by
  rw [ofField?, List.find?_cons, ← ofField?]
  by_cases h : m.1 ∈ names
  · rw [if_pos h, List.contains_iff_mem.2 h]
  · rw [if_neg h, Bool.eq_false_iff.2 (mt List.contains_iff_mem.1 h)]

@[simp] theorem Members.ofField?_append (names : List String) :
    ofField? names (members ++ members') =
      (ofField? names members).or (ofField? names members') :=
  List.find?_append

@[simp] theorem Members.ofField?_ite (names : List String) (c : Prop) [Decidable c] :
    ofField? names (if c then members else members') =
      if c then ofField? names members else ofField? names members' :=
  apply_ite _ _ _ _

/-- A member that is left out if there is nothing. -/
@[simp] theorem Members.ofField?_toList {α : Type} (names : List String) (key : String)
    (write : α → Value) (o : Option α) :
    ofField? names (o.map fun a => (key, write a)).toList =
      if key ∈ names then o.map fun a => (key, write a) else none := by
  cases o with
  | none => exact (ite_self none).symm
  | some a => exact ofField?_cons names _

@[simp] theorem Members.ofField?_toList_mk (names : List String) (key : String)
    (o : Option Value) :
    ofField? names (o.map (Prod.mk key)).toList =
      if key ∈ names then o.map (Prod.mk key) else none :=
  ofField?_toList names key id o

theorem Members.keys_toList {α : Type} (key : String) (write : α → Value) (o : Option α) :
    ((o.map fun a => (key, write a)).toList.map (·.1)).Sublist [key] := by
  cases o with
  | none => exact List.nil_sublist _
  | some a => exact .refl _

/-! ## What a field is given -/

/-- Whether a member is under one of some spellings. -/
def isUnder (names : List String) (m : Option String × Tree) : Bool :=
  m.1.any names.contains

/-- The trees under some spellings, in their order. -/
def under (names : List String) (ms : List (Option String × Tree)) : List Tree :=
  (ms.filter (isUnder names)).map (·.2)

variable {t : Tree} {ms ms' : List (Option String × Tree)} {key : String} {names : List String}

theorem isUnder_some : isUnder names (some key, t) = true ↔ key ∈ names := by
  rw [isUnder, Option.any_some, List.contains_iff_mem]

theorem under_eq_nil_iff :
    under names ms = [] ↔ ∀ key t, (some key, t) ∈ ms → key ∉ names := by
  rw [under, List.map_eq_nil_iff, List.filter_eq_nil_iff]
  refine ⟨fun h key t hm hk => h _ hm (isUnder_some.2 hk), ?_⟩
  rintro h ⟨_ | key, t⟩ hm hu
  · exact Bool.false_ne_true hu
  · exact h key t hm (isUnder_some.1 hu)

theorem under_append : under names (ms ++ ms') = under names ms ++ under names ms' := by
  rw [under, List.filter_append, List.map_append, under, under]

theorem under_cons_none : under names ((none, t) :: ms) = under names ms := rfl

theorem under_cons_of_mem (h : key ∈ names) :
    under names ((some key, t) :: ms) = t :: under names ms := by
  rw [under, List.filter_cons_of_pos (isUnder_some.2 h)]
  rfl

theorem under_cons_of_not_mem (h : key ∉ names) :
    under names ((some key, t) :: ms) = under names ms := by
  rw [under, List.filter_cons_of_neg (mt isUnder_some.1 h)]
  rfl

/-! ## Filling the fields -/

/-- A key is of one field only. -/
theorem Distinct.eq_of_mem {α : Type} {spelled : α → List String} {fields : List α}
    (hs : Distinct (fields.map spelled)) {f g : α} (hf : f ∈ fields) (hg : g ∈ fields)
    (hk : key ∈ spelled f) (hk' : key ∈ spelled g) : f = g := by
  by_contra hne
  have : Std.Symm fun f g => ∀ name ∈ spelled f, name ∉ spelled g :=
    ⟨fun _ _ h name hb ha => h name ha hb⟩
  exact (List.pairwise_map.1 hs).forall hf hg hne key hk hk'

theorem Distinct.eq (hs : Distinct spellings) {names names' : List String}
    (hn : names ∈ spellings) (hn' : names' ∈ spellings) (hk : key ∈ names)
    (hk' : key ∈ names') : names = names' :=
  eq_of_mem (List.map_id spellings ▸ hs) hn hn' hk hk'

/-- A key is of the field that has it among its spellings. -/
theorem fieldIndex?_eq_some (hs : Distinct spellings) {key : String} {i : Nat}
    (h : fieldIndex? key spellings = some i) (f : List String → Option Tree) (t : Option Tree) :
    ∃ names ∈ spellings, key ∈ names ∧ (spellings.map f)[i]? = some (f names) ∧
      (spellings.map f).set i t =
        spellings.map fun names => if key ∈ names then t else f names := by
  induction spellings generalizing i with
  | nil => cases h
  | cons names rest ih =>
    obtain ⟨hn, hr⟩ := List.pairwise_cons.1 hs
    rw [fieldIndex?, List.findIdx?_cons] at h
    split at h
    · next hk =>
      rw [List.contains_iff_mem] at hk
      obtain rfl := Option.some.inj h
      refine ⟨names, List.mem_cons_self, hk, rfl, ?_⟩
      rw [List.map_cons, List.map_cons, List.set_cons_zero, if_pos hk]
      refine congrArg _ (List.map_congr_left fun names' hn' => ?_)
      exact (if_neg (hn names' hn' key hk)).symm
    · next hk =>
      rw [List.contains_iff_mem] at hk
      obtain ⟨i, hi, rfl⟩ := Option.map_eq_some_iff.1 h
      obtain ⟨names', hn', hk', hg, hset⟩ := ih hr hi
      refine ⟨names', List.mem_cons_of_mem _ hn', hk', hg, ?_⟩
      rw [List.map_cons, List.map_cons, List.set_cons_succ, hset, if_neg hk]

/-- Fields are filled if every key is a text and no field is given twice, counting what it
    holds so far. -/
theorem fillFields?_eq_some_iff (hs : Distinct spellings)
    (f : List String → Option Tree) {fs : List (Option Tree)} :
    fillFields? spellings (spellings.map f) ms = some fs ↔
      (∀ m ∈ ms, m.1.isSome = true) ∧
      (∀ names ∈ spellings, ((f names).toList ++ under names ms).length ≤ 1) ∧
      fs = spellings.map fun names => ((f names).toList ++ under names ms).getLast? := by
  -- What the fields hold so far is told by their spellings, so that it stays a map over them.
  induction ms generalizing f with
  | nil =>
    have hf (names : List String) : ((f names).toList ++ under names []).length ≤ 1 ∧
        ((f names).toList ++ under names []).getLast? = f names := by
      cases f names with
      | none => exact ⟨Nat.zero_le 1, rfl⟩
      | some t => exact ⟨Nat.le_refl 1, rfl⟩
    rw [and_iff_right (List.forall_mem_nil _), and_iff_right fun names _ => (hf names).1,
      List.map_congr_left fun names _ => (hf names).2, fillFields?, Option.some_inj]
    exact eq_comm
  | cons m ms ih =>
    obtain ⟨_ | key, t⟩ := m
    · simp [fillFields?]
    rw [fillFields?, List.forall_mem_cons]
    cases hi : fieldIndex? key spellings with
    | none =>
      have hk : ∀ names ∈ spellings, under names ((some key, t) :: ms) = under names ms := by
        have h : ∀ names ∈ spellings, key ∉ names := by
          simpa [fieldIndex?, List.findIdx?_eq_none_iff] using hi
        exact fun names hn => under_cons_of_not_mem (h names hn)
      have hfs : (spellings.map fun names => ((f names).toList ++ under names ms).getLast?) =
          spellings.map fun names =>
            ((f names).toList ++ under names ((some key, t) :: ms)).getLast? :=
        List.map_congr_left fun names hn => by rw [hk names hn]
      simp only
      rw [ih f, hfs, and_iff_right (show (some key).isSome = true from rfl)]
      refine and_congr_right fun _ => and_congr_left fun _ => forall₂_congr fun names hn => ?_
      rw [hk names hn]
    | some i =>
      obtain ⟨names, hn, hk, hg, hset⟩ := fieldIndex?_eq_some hs hi f (some t)
      simp only
      rw [hg]
      cases hf : f names with
      | some t' =>
        -- The field would be given twice.
        refine iff_of_false (Option.some_ne_none fs).symm fun h => ?_
        have hl := h.2.1 names hn
        rw [hf, under_cons_of_mem hk] at hl
        exact absurd hl (by simp)
      | none =>
        have hheld : ∀ names' ∈ spellings,
            (if key ∈ names' then some t else f names').toList ++ under names' ms =
              (f names').toList ++ under names' ((some key, t) :: ms) := by
          intro names' hn'
          by_cases hk' : key ∈ names'
          · rw [if_pos hk', under_cons_of_mem hk', ← hs.eq hn hn' hk hk', hf]
            rfl
          · rw [if_neg hk', under_cons_of_not_mem hk']
        simp only
        rw [hset, ih, and_iff_right (show (some key).isSome = true from rfl),
          List.map_congr_left fun names' hn' => congrArg List.getLast? (hheld names' hn')]
        refine and_congr_right fun _ => and_congr_left fun _ => forall₂_congr fun names' hn' => ?_
        rw [hheld names' hn']

/-- The fields of an object can be told if every key is a text and no field is given twice. -/
theorem fields?_object_iff (hs : Distinct spellings)
    {fs : List (Option Tree)} : (Tree.object ms).fields? spellings = some fs ↔
      (∀ m ∈ ms, m.1.isSome = true) ∧
      (∀ names ∈ spellings, (under names ms).length ≤ 1) ∧
      fs = spellings.map fun names => (under names ms).getLast? :=
  fillFields?_eq_some_iff hs fun _ => none

theorem under_toMembers : under names (Value.toMembers members) =
    (members.filter fun m => names.contains m.1).map (·.2.toTree) := by
  induction members with
  | nil => rfl
  | cons m members ih =>
    obtain ⟨k, v⟩ := m
    rw [Value.toMembers]
    by_cases hk : k ∈ names
    · rw [under_cons_of_mem hk, List.filter_cons, if_pos (List.contains_iff_mem.2 hk), ih]
      rfl
    · rw [under_cons_of_not_mem hk, List.filter_cons,
        if_neg (mt List.contains_iff_mem.1 hk), ih]

theorem isSome_toMembers : ∀ m ∈ Value.toMembers members, m.1.isSome = true := by
  induction members with
  | nil => exact List.forall_mem_nil _
  | cons m members ih => exact List.forall_mem_cons.2 ⟨rfl, ih⟩

/-- The fields of a value can be told if none is given twice. -/
theorem fields?_toTree_iff (hs : Distinct spellings)
    {fs : List (Option Tree)} : (Value.object members).toTree.fields? spellings = some fs ↔
      (∀ names ∈ spellings, (under names (Value.toMembers members)).length ≤ 1) ∧
      fs = spellings.map fun names => (under names (Value.toMembers members)).getLast? := by
  rw [Value.toTree, fields?_object_iff hs, and_iff_right isSome_toMembers]

/-- Of members that are apart, a field is given one at most. -/
theorem under_toMembers_of_apart {names : List String} (hn : names ∈ spellings)
    (ha : members.Pairwise fun m m' => Apart spellings m.1 m'.1) :
    under names (Value.toMembers members) =
      ((Members.ofField? names members).map (·.2.toTree)).toList := by
  induction members with
  | nil => rfl
  | cons m rest ih =>
    obtain ⟨key, v⟩ := m
    obtain ⟨hm, hr⟩ := List.pairwise_cons.1 ha
    rw [Value.toMembers, Members.ofField?_cons]
    by_cases hk : key ∈ names
    · -- The other members are of other fields.
      have hrest : under names (Value.toMembers rest) = [] := by
        rw [under_toMembers, List.map_eq_nil_iff, List.filter_eq_nil_iff]
        exact fun m hmem hk' => (hm m hmem).2 names hn hk (List.contains_iff_mem.1 hk')
      rw [under_cons_of_mem hk, if_pos hk, hrest]
      rfl
    · rw [under_cons_of_not_mem hk, if_neg hk, ih hr]

/-- The fields of a record that was written, under some of the keys given. -/
theorem fields?_ofMembers (keys : List String) (hs : Distinct spellings)
    (hk : keys.Pairwise (Apart spellings)) (hm : (members.map (·.1)).Sublist keys) :
    (Value.ofMembers members).toTree.fields? spellings =
      some (spellings.map fun names => (Members.ofField? names members).map (·.2.toTree)) := by
  have ha : members.Pairwise fun m m' => Apart spellings m.1 m'.1 :=
    List.pairwise_map.1 (hk.sublist hm)
  have hp : (Members.insertAll [] members).Perm members :=
    Members.perm_insertAll (List.pairwise_map.2 (ha.imp And.left))
  have hu : ∀ names ∈ spellings, under names (Value.toMembers (Members.insertAll [] members)) =
      ((Members.ofField? names members).map (·.2.toTree)).toList := by
    intro names hn
    rw [under_toMembers_of_apart hn (hp.symm.pairwise ha Apart.symm),
      ← Members.ofField?_perm hp.symm hn ha]
  refine (fields?_toTree_iff hs).2 ⟨fun names hn => ?_, List.map_congr_left fun names hn => ?_⟩
  · rw [hu names hn]
    exact Option.length_toList_le
  · rw [hu names hn]
    cases Members.ofField? names members <;> rfl

/-! ## What a field holds -/

variable {α : Type} {read? : Tree → Option α} {write : α → Value}

/-- What a field holds that may be missing was read. -/
theorem of_optional? {field : Option Tree} {o : Option α} (h : optional? read? field = some o) :
    ∀ a ∈ o, ∃ t, read? t = some a := by
  rintro a rfl
  cases field with
  | none => cases h
  | some t =>
    rw [optional?] at h
    cases t with
    | null => cases h
    | _ =>
      obtain ⟨a', ha, he⟩ := Option.map_eq_some_iff.1 h
      exact ⟨_, ha.trans he⟩

/-- What a list holds was read. -/
theorem of_list? {t : Tree} {as : List α} (h : list? read? t = some as) :
    ∀ a ∈ as, ∃ t, read? t = some a := by
  cases t with
  | array ts =>
    induction ts generalizing as with
    | nil =>
      obtain rfl := Option.some.inj h
      exact List.forall_mem_nil _
    | cons t ts ih =>
      rw [list?, List.mapM_cons] at h
      obtain ⟨a, ha, h⟩ := Option.bind_eq_some_iff.1 h
      obtain ⟨as, has, h⟩ := Option.bind_eq_some_iff.1 h
      obtain rfl := Option.some.inj h
      exact List.forall_mem_cons.2 ⟨⟨t, ha⟩, ih has⟩
  | _ => cases h

/-- A list is read item by item. -/
theorem list?_array {β : Type} {write : β → Value} {f : β → α} {bs : List β}
    (h : ∀ b ∈ bs, read? (write b).toTree = some (f b)) :
    list? read? (Value.array (bs.map write)).toTree = some (bs.map f) := by
  rw [Value.toTree, list?]
  induction bs with
  | nil => rfl
  | cons b bs ih =>
    rw [List.forall_mem_cons] at h
    rw [List.map_cons, Value.toTrees, List.mapM_cons, h.1, ih h.2]
    rfl

@[simp] theorem required?_string (s : String) :
    required? string? (some (Value.string s).toTree) = some s := rfl

@[simp] theorem optional?_none : optional? read? none = some none := rfl

@[simp] theorem optional?_string (s : String) :
    optional? string? (some (Value.string s).toTree) = some (some s) := rfl

@[simp] theorem optional?_bool (b : Bool) :
    optional? bool? (some (Value.bool b).toTree) = some (some b) := rfl

theorem toTree_ne_null {v : Value} (h : v ≠ .null) : v.toTree ≠ .null := by
  cases v with
  | null => exact absurd rfl h
  | _ => exact nofun

/-- What is not `null` is read. -/
theorem optional?_of_ne_null {v : Value} {a : α} (h : read? v.toTree = some a) (hn : v ≠ .null) :
    optional? read? (some v.toTree) = some (some a) := by
  rw [optional?, nullable?]
  · rw [h, Option.map_some]
  · exact toTree_ne_null hn

/-- A field that is written in any case, as `null` if there is nothing. -/
theorem optional?_ofOption_self {o : Option α} (h : ∀ a ∈ o, read? (write a).toTree = some a)
    (hn : ∀ a ∈ o, write a ≠ .null) :
    optional? read? (some (Value.ofOption write o).toTree) = some o := by
  cases o with
  | none => rfl
  | some a => exact optional?_of_ne_null (h a rfl) (hn a rfl)

theorem optional?_ofOption (h : ∀ a, read? (write a).toTree = some a) (hn : ∀ a, write a ≠ .null)
    (o : Option α) : optional? read? (some (Value.ofOption write o).toTree) = some o :=
  optional?_ofOption_self (fun a _ => h a) fun a _ => hn a

/-- A field that is left out if there is nothing. -/
theorem optional?_map {β : Type} {write : β → Value} {f : β → α} {o : Option β}
    (h : ∀ b ∈ o, read? (write b).toTree = some (f b)) (hn : ∀ b ∈ o, write b ≠ .null) :
    optional? read? (o.map fun b => (write b).toTree) = some (o.map f) := by
  cases o with
  | none => rfl
  | some b => exact optional?_of_ne_null (h b rfl) (hn b rfl)

theorem optional?_map_self {o : Option α} (h : ∀ a ∈ o, read? (write a).toTree = some a)
    (hn : ∀ a ∈ o, write a ≠ .null) :
    optional? read? (o.map fun a => (write a).toTree) = some o := by
  rw [optional?_map h hn, Option.map_id']

/-- As a value, `null` is read as nothing. -/
theorem optional?_value? {v : Value} (h : v.Ordered) :
    optional? value? (some v.toTree) = some (if v = .null then none else some v) := by
  split_ifs with hn
  · rw [hn]
    rfl
  · exact optional?_of_ne_null (value?_toTree h) hn

/-- A value that has to be there is read as it was. -/
theorem withDefault?_value? {v : Value} (h : v.Ordered) (default : Value) :
    withDefault? default value? (some v.toTree) = some v :=
  value?_toTree h

/-! ## Integers of 64 bits -/

/-- A signed integer of 64 bits. -/
def IsInt64 (i : Int) : Prop :=
  -9223372036854775808 ≤ i ∧ i ≤ 9223372036854775807

theorem isInt64_of_int64? {t : Tree} {i : Int} (h : t.int64? = some i) : IsInt64 i := by
  rw [int64?] at h
  unfold intBetween? at h
  split at h
  · split_ifs at h with hi
    exact Option.some.inj h ▸ hi
  · cases h

theorem int64?_int {i : Int} (h : IsInt64 i) : (Value.int i).toTree.int64? = some i :=
  if_pos h

/-- An unsigned integer of 64 bits. -/
theorem nat64?_nat {n : Nat} (h : n < 18446744073709551616) :
    (Value.nat n).toTree.nat64? = some n := by
  have hn : (n : Int) ≤ 18446744073709551615 := by omega
  rw [Value.nat, Value.toTree, nat64?, intBetween?, if_pos ⟨Int.natCast_nonneg _, hn⟩,
    Option.map_some, Int.toNat_natCast]

/-! ## Tagged records -/

theorem filter_toMembers (p : Option String → Bool) :
    (Value.toMembers members).filter (fun m => p m.1) =
      Value.toMembers (members.filter fun m => p (some m.1)) := by
  induction members with
  | nil => rfl
  | cons m members ih =>
    rw [Value.toMembers, List.filter_cons, List.filter_cons, ih]
    split_ifs <;> rfl

/-- The tag of a record that was written is found, and the other members are left. -/
theorem tagged?_toTree {tag name : String} (h : (Value.object members).Ordered)
    (hm : members.filter (fun m => some m.1 == some tag) = [(tag, .string name)]) :
    (Value.object members).toTree.tagged? tag =
      some (name, (Value.object (members.filter fun m => !(some m.1 == some tag))).toTree) := by
  have hs : splitTag tag (Value.toMembers members) = ([.string name],
      Value.toMembers (members.filter fun m => !(some m.1 == some tag))) := by
    rw [splitTag, filter_toMembers fun key => key == some tag,
      filter_toMembers fun key => !(key == some tag), hm]
    rfl
  unfold tagged?
  rw [value?_toTree h]
  simp only [Option.bind_eq_bind, Option.bind_some, Value.toTree, hs]

end Dialogue.Json
