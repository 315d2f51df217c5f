import Dialogue.Proofs.Json.Rewording

/-!
# Values of records in other words

A payload may be read as a value first, which keeps of each key what it holds last, and puts the
keys in order. What such a value has under a key is then the value of the last tree under it, and
the fields of the record that it is written back as are those that it is given by its members.

* `Rewording.readable_iff`: a record has a value in other words if it has one at all;
* `Rewording.get?_eq`: what the value has under the one spelling of a field;
* `Rewording.fields?_toTree`: the fields of the value, under any spellings.
-/

namespace Dialogue.Json

open Dialogue.Json.Tree

variable {t t' : Tree} {ms ms' : List (Option String × Tree)} {vs vs' : List (String × Value)}
  {v v' : Value} {key key' : String} {names : List String} {fields : List Field} {f : Field}
  {Usable : Tree → Prop}

theorem readable_of_value? (h : t.value? = some v) : Readable t :=
  Option.isSome_iff_exists.2 ⟨v, h⟩

/-- The value of an object is one. -/
theorem Readable.exists_object (h : Readable (.object ms)) :
    ∃ vs, (Tree.object ms).value? = some (.object vs) := by
  obtain ⟨v, hv⟩ := Option.isSome_iff_exists.1 h
  obtain ⟨vs, _, rfl⟩ := Option.map_eq_some_iff.1 hv
  exact ⟨vs, hv⟩

theorem Reordered.readable_iff (h : Reordered t t') : Readable t ↔ Readable t' := by
  rw [Readable, Readable, h.value?_eq]

/-- What comes and goes must have a value, else the record has none. -/
theorem Rewording.readable_iff (h : Rewording fields Usable ms ms')
    (hs : ∀ f ∈ fields, ∀ t t', f.Same t t' → (Readable t ↔ Readable t'))
    (hu : ∀ t, Usable t → Readable t) : Readable (.object ms) ↔ Readable (.object ms') := by
  rw [readable_object, readable_object]
  refine h.forall_iff (fun _ _ _ h => h) (fun f hf _ t t' h => ?_) (fun _ t h => ⟨rfl, hu t h⟩)
    fun _ _ _ h => and_congr_right fun _ => h.readable_iff
  exact and_congr_right fun _ => hs f hf t t' h

/-! ## What a value has under a key -/

theorem get?_of_value? (h : (Tree.object ms).value? = some v) (key : String) :
    v.get? key = (under [key] ms).getLast?.bind value? := by
  obtain ⟨vs, hvs, rfl⟩ := Option.map_eq_some_iff.1 h
  rw [Value.get?, lookup_memberValues? hvs, lastUnder?_eq]
  cases (under [key] ms).getLast? <;> rfl

theorem readable_of_mem_under (h : (Tree.object ms).value? = some v) (ht : t ∈ under names ms) :
    Readable t := by
  obtain ⟨m, hm, rfl⟩ := List.mem_map.1 ht
  exact (readable_object.1 (readable_of_value? h) m (List.mem_of_mem_filter hm)).2

/-- Under the one spelling of a plain field there is the same value in other words. -/
theorem Rewording.get?_eq (h : Rewording fields Usable ms ms')
    (hd : Distinct (fields.map (·.names))) (hf : ⟨[key], Reordered⟩ ∈ fields)
    (hv : (Tree.object ms).value? = some v) (hv' : (Tree.object ms').value? = some v') :
    v.get? key = v'.get? key := by
  have hr := rel_of_chain (h.under_rel hd hf (.inr ⟨key, rfl⟩)).2
  rw [get?_of_value? hv, get?_of_value? hv']
  generalize (under [key] ms).getLast? = o, (under [key] ms').getLast? = o' at hr
  cases hr with
  | none => rfl
  | some hr => exact hr.value?_eq

/-! ## The fields of a value -/

/-- They are told by what each of them is given. -/
theorem fields?_toTree_congr {spellings : List (List String)} (hs : Distinct spellings)
    (h : ∀ names ∈ spellings,
      under names (Value.toMembers vs) = under names (Value.toMembers vs')) :
    (Value.object vs).toTree.fields? spellings = (Value.object vs').toTree.fields? spellings := by
  refine Option.ext fun fs => ?_
  rw [fields?_toTree_iff hs, fields?_toTree_iff hs,
    List.map_congr_left fun names hn => congrArg List.getLast? (h names hn)]
  exact and_congr_left fun _ => forall₂_congr fun names hn => by rw [h names hn]

theorem lookup_filter (key : String) : (vs.filter fun m => names.contains m.1).lookup key =
    if key ∈ names then vs.lookup key else none := by
  induction vs with
  | nil => exact (ite_self none).symm
  | cons m vs ih => grind

theorem lookup_eq_of_value? {ms : List (Option String × Tree)} {vs : List (String × Value)}
    (h : (Tree.object ms).value? = some (.object vs)) (key : String) :
    vs.lookup key = (under [key] ms).getLast?.bind value? :=
  get?_of_value? h key

theorem ordered_of_value?_object (h : (Tree.object ms).value? = some (.object vs)) :
    vs.Pairwise (·.1 < ·.1) := by
  cases ordered_of_value? h with
  | object h _ => exact h

/-- A key that is there is there in the value. -/
theorem lookup_of_mem (hv : (Tree.object ms).value? = some (.object vs))
    (hm : (some key, t) ∈ ms) : ∃ w, vs.lookup key = some w := by
  have ht : t ∈ under [key] ms := List.mem_map_of_mem
    (List.mem_filter.2 ⟨hm, isUnder_some.2 (List.mem_singleton.2 rfl)⟩)
  obtain ⟨s, hs⟩ := Option.ne_none_iff_exists'.1 fun h =>
    List.ne_nil_of_mem ht (List.getLast?_eq_none_iff.1 h)
  obtain ⟨w, hw⟩ := Option.isSome_iff_exists.1
    (readable_of_mem_under hv (List.mem_of_getLast? hs))
  exact ⟨w, by rw [lookup_eq_of_value? hv, hs, Option.bind_some, hw]⟩

theorem two_le_length {α : Type} {as : List α} {a b : α} (hne : a ≠ b) (ha : a ∈ as)
    (hb : b ∈ as) : 2 ≤ as.length := by
  by_contra hlt
  obtain ⟨c, rfl⟩ := List.length_eq_one_iff.1
    (Nat.le_antisymm (Nat.not_lt.1 hlt) (List.length_pos_of_mem ha))
  exact hne ((List.mem_singleton.1 ha).trans (List.mem_singleton.1 hb).symm)

/-- Two spellings of a field that are both there give it twice. -/
theorem two_le_length_under (hv : (Tree.object ms).value? = some (.object vs)) (hne : key ≠ key')
    (hk : key ∈ names) (hk' : key' ∈ names) (hm : (some key, t) ∈ ms) (hm' : (some key', t') ∈ ms) :
    2 ≤ (under names (Value.toMembers vs)).length := by
  have hmem {key : String} {t : Tree} (hk : key ∈ names) (hm : (some key, t) ∈ ms) :
      ∃ w, (key, w) ∈ vs.filter fun m => names.contains m.1 := by
    obtain ⟨w, hw⟩ := lookup_of_mem hv hm
    obtain ⟨l, l', rfl, _⟩ := List.lookup_eq_some_iff.1 hw
    exact ⟨w, List.mem_filter.2 ⟨List.mem_append_right _ List.mem_cons_self,
      List.contains_iff_mem.2 hk⟩⟩
  obtain ⟨w, hw⟩ := hmem hk hm
  obtain ⟨w', hw'⟩ := hmem hk' hm'
  rw [under_toMembers, List.length_map]
  exact two_le_length (fun h => hne (congrArg Prod.fst h)) hw hw'

/-- A field has the same values if each of its keys has what it had. -/
theorem under_toMembers_eq (hv : (Tree.object ms).value? = some (.object vs))
    (hv' : (Tree.object ms').value? = some (.object vs'))
    (hu : ∀ key ∈ names, under [key] ms = under [key] ms') :
    under names (Value.toMembers vs) = under names (Value.toMembers vs') := by
  rw [under_toMembers, under_toMembers]
  have ho := ordered_of_value?_object hv
  have ho' := ordered_of_value?_object hv'
  refine congrArg (List.map (·.2.toTree))
    (Members.eq_of_lookup (ho.filter _) (ho'.filter _) fun key => ?_)
  rw [lookup_filter, lookup_filter]
  split_ifs with hk
  · rw [lookup_eq_of_value? hv, lookup_eq_of_value? hv', hu key hk]
  · rfl

theorem under_eq_nil (h : under names ms = []) (hk : key ∈ names) : under [key] ms = [] := by
  rw [under_eq_nil_iff] at h ⊢
  intro k t hm hkk
  exact h k t hm (List.mem_singleton.1 hkk ▸ hk)

/-- A field that only one member gives has the value of this member. -/
theorem under_toMembers_singleton {before after : List (Option String × Tree)} {w : Value}
    (hv : (Tree.object (before ++ (some key, t) :: after)).value? = some (.object vs))
    (hk : key ∈ names) (hb : under names before = []) (ha : under names after = [])
    (hw : t.value? = some w) : under names (Value.toMembers vs) = [w.toTree] := by
  suffices h : (vs.filter fun m => names.contains m.1) = [(key, w)] by
    rw [under_toMembers, h]
    rfl
  have hnone {k : String} (h : k ≠ key) : [(key, w)].lookup k = none := by
    rw [List.lookup_cons, beq_false_of_ne h]
    rfl
  refine Members.eq_of_lookup ((ordered_of_value?_object hv).filter _)
    (List.pairwise_singleton _ _) fun k => ?_
  rw [lookup_filter, lookup_eq_of_value? hv, under_append]
  split_ifs with hn
  · rw [under_eq_nil hb hn]
    by_cases hkk : k = key
    · rw [hkk, under_cons_of_mem (List.mem_singleton.2 rfl), under_eq_nil ha hk]
      simpa using hw
    · rw [under_cons_of_not_mem fun h => hkk (List.mem_singleton.1 h).symm, under_eq_nil ha hn,
        hnone hkk]
      rfl
  · rw [hnone]
    rintro rfl
    exact hn hk

/-- A field of the value is the same under another spelling, if it is not given twice. -/
theorem under_toMembers_respelled {before after : List (Option String × Tree)}
    (hn : ((before ++ (some key, t) :: after).map (·.1)).Nodup)
    (hv : (Tree.object (before ++ (some key, t) :: after)).value? = some (.object vs))
    (hv' : (Tree.object (before ++ (some key', t) :: after)).value? = some (.object vs'))
    (hk : key ∈ names) (hk' : key' ∈ names)
    (hl : (under names (Value.toMembers vs)).length ≤ 1) :
    under names (Value.toMembers vs) = under names (Value.toMembers vs') := by
  -- Another member of the field would give it a second time.
  have hrest : under names (before ++ after) = [] := by
    refine under_eq_nil_iff.2 fun k s hm hkn => ?_
    rw [List.map_append, List.map_cons, List.nodup_middle, List.nodup_cons,
      ← List.map_append] at hn
    have hne : key ≠ k := by
      rintro rfl
      exact hn.1 (List.mem_map.2 ⟨_, hm, rfl⟩)
    have hm : (some k, s) ∈ before ++ (some key, t) :: after := by
      rw [List.mem_append] at hm ⊢
      exact hm.imp_right (List.mem_cons_of_mem _)
    exact absurd hl (Nat.not_le.2 (two_le_length_under hv hne hk hkn
      (List.mem_append_right _ List.mem_cons_self) hm))
  rw [under_append, List.append_eq_nil_iff] at hrest
  obtain ⟨w, hw⟩ := Option.isSome_iff_exists.1
    (readable_object.1 (readable_of_value? hv) (some key, t)
      (List.mem_append_right _ List.mem_cons_self)).2
  rw [under_toMembers_singleton hv hk hrest.1 hrest.2 hw,
    under_toMembers_singleton hv' hk' hrest.1 hrest.2 hw]

theorem same_plainFields {spellings : List (List String)} (hf : f ∈ plainFields spellings) :
    f.names ∈ spellings ∧ f.Same = Reordered := by
  obtain ⟨names, hn, rfl⟩ := List.mem_map.1 hf
  exact ⟨hn, rfl⟩

theorem Rewording.readable_iff_of_plain {spellings : List (List String)}
    (h : Rewording (plainFields spellings) Readable ms ms') :
    Readable (.object ms) ↔ Readable (.object ms') :=
  h.readable_iff (fun _ hf _ _ hs => Reordered.readable_iff ((same_plainFields hf).2 ▸ hs))
    fun _ h => h

theorem SameRecord.readable_iff {spellings : List (List String)}
    (h : SameRecord (plainFields spellings) Readable t t') : Readable t ↔ Readable t' := by
  cases h with
  | object h => exact h.readable_iff_of_plain
  | item h => exact (Reordered.item h).readable_iff

theorem SameRecord.of_chain {fields : List Field} {Usable : Tree → Prop}
    (h : Relation.ReflTransGen (SameRecord fields Usable) (.object ms) t) :
    ∃ ms', t = .object ms' := by
  induction h with
  | refl => exact ⟨ms, rfl⟩
  | tail _ h ih =>
    obtain ⟨_, rfl⟩ := ih
    cases h with
    | object h => exact ⟨_, rfl⟩

/-- A field of the value of a record of plain values is the same in other words, if it is not
    given twice. -/
theorem Rewording.under_toMembers {spellings : List (List String)}
    (h : Rewording (plainFields spellings) Readable ms ms') (hs : Distinct spellings)
    (hn : names ∈ spellings) (hv : (Tree.object ms).value? = some (.object vs))
    (hv' : (Tree.object ms').value? = some (.object vs'))
    (hl : (under names (Value.toMembers vs)).length ≤ 1) :
    under names (Value.toMembers vs) = under names (Value.toMembers vs') := by
  have heq {t t' : Tree} {vs vs' : List (String × Value)} (h : Reordered t t')
      (hv : t.value? = some (.object vs)) (hv' : t'.value? = some (.object vs')) : vs = vs' := by
    rw [h.value?_eq, hv'] at hv
    exact (Value.object.inj (Option.some.inj hv)).symm
  have hskip {before after : List (Option String × Tree)} {key : String} (t : Tree)
      (h : key ∉ names) : ∀ k ∈ names,
        under [k] (before ++ (some key, t) :: after) = under [k] (before ++ after) := by
    intro k hk
    have hne : key ∉ [k] := fun hm => h (List.mem_singleton.1 hm ▸ hk)
    rw [under_append, under_append, under_cons_of_not_mem hne]
  have hforeign {key : String} (h : ∀ f ∈ plainFields spellings, key ∉ f.names) : key ∉ names :=
    h ⟨names, Reordered⟩ (List.mem_map_of_mem hn)
  induction h generalizing vs vs' with
  | refl => rw [heq (.refl _) hv hv']
  | @trans ms ms' ms'' h _ ih ih' =>
    obtain ⟨us, hm⟩ := (h.readable_iff_of_plain.1 (readable_of_value? hv)).exists_object
    have he := ih hv hm hl
    exact he.trans (ih' hm hv' (he ▸ hl))
  | @respelled before after f key key' t hf hk hk' hnd =>
    have hns := (same_plainFields hf).1
    by_cases hkn : key ∈ names
    · have hkn' : key' ∈ names := hs.eq hns hn hk hkn ▸ hk'
      exact under_toMembers_respelled hnd hv hv' hkn hkn' hl
    · have hkn' : key' ∉ names := fun h => hkn (hs.eq hns hn hk' h ▸ hk)
      exact under_toMembers_eq hv hv' fun k hk => (hskip t hkn k hk).trans (hskip t hkn' k hk).symm
  | moved hnd hp => rw [heq (.moved hnd hp) hv hv']
  | replaced hf _ hsame => rw [heq (.member ((same_plainFields hf).2 ▸ hsame)) hv hv']
  | @added before after key t hk =>
    exact under_toMembers_eq hv hv' fun k hk' => (hskip t (hforeign hk) k hk').symm
  | @dropped before after key t hk =>
    exact under_toMembers_eq hv hv' fun k hk' => hskip t (hforeign hk) k hk'
  | within _ hr => rw [heq (.member hr) hv hv']

/-- The fields of a record of plain values, or some of them, told by its value, hold the same in
    other words. -/
theorem Rewording.fields?_toTree {spellings told : List (List String)}
    (h : Rewording (plainFields spellings) Readable ms ms') (hs : Distinct spellings)
    (ht : told.Sublist spellings) (hv : (Tree.object ms).value? = some (.object vs))
    (hv' : (Tree.object ms').value? = some (.object vs')) {fs : List (Option Tree)}
    (hf : (Value.object vs).toTree.fields? told = some fs) :
    (Value.object vs').toTree.fields? told = some fs := by
  have hd : Distinct told := List.Pairwise.sublist ht hs
  obtain ⟨hl, rfl⟩ := (fields?_toTree_iff hd).1 hf
  have he (names : List String) (hn : names ∈ told) :=
    h.under_toMembers hs (ht.subset hn) hv hv' (hl names hn)
  refine (fields?_toTree_iff hd).2 ⟨fun names hn => he names hn ▸ hl names hn, ?_⟩
  exact List.map_congr_left fun names hn => congrArg List.getLast? (he names hn)

/-! ## Fields that are given twice -/

/-- An object gives a field under two of its spellings. -/
def GivesTwice (spellings : List (List String)) (ms : List (Option String × Tree)) : Prop :=
  ∃ names ∈ spellings, ∃ key ∈ names, ∃ key' ∈ names,
    key ≠ key' ∧ some key ∈ ms.map (·.1) ∧ some key' ∈ ms.map (·.1)

variable {spellings : List (List String)}

theorem GivesTwice.fields?_eq_none (h : GivesTwice spellings ms) (hs : Distinct spellings) :
    (Tree.object ms).fields? spellings = none := by
  obtain ⟨names, hn, key, hk, key', hk', hne, hm, hm'⟩ := h
  obtain ⟨⟨_, t⟩, hm, rfl⟩ := List.mem_map.1 hm
  obtain ⟨⟨_, t'⟩, hm', rfl⟩ := List.mem_map.1 hm'
  refine Option.eq_none_iff_forall_ne_some.2 fun fs hf => ?_
  have hl : 2 ≤ (under names ms).length := by
    rw [under, List.length_map]
    exact two_le_length (fun h => hne (Option.some.inj (congrArg Prod.fst h)))
      (List.mem_filter.2 ⟨hm, isUnder_some.2 hk⟩) (List.mem_filter.2 ⟨hm', isUnder_some.2 hk'⟩)
  exact absurd (((fields?_object_iff hs).1 hf).2.1 names hn) (Nat.not_le.2 hl)

/-- So does the value of the object. -/
theorem GivesTwice.fields?_toTree_eq_none (h : GivesTwice spellings ms) (hs : Distinct spellings)
    (hv : (Tree.object ms).value? = some (.object vs)) :
    (Value.object vs).toTree.fields? spellings = none := by
  obtain ⟨names, hn, key, hk, key', hk', hne, hm, hm'⟩ := h
  obtain ⟨⟨_, t⟩, hm, rfl⟩ := List.mem_map.1 hm
  obtain ⟨⟨_, t'⟩, hm', rfl⟩ := List.mem_map.1 hm'
  refine Option.eq_none_iff_forall_ne_some.2 fun fs hf => ?_
  exact absurd (((fields?_toTree_iff hs).1 hf).1 names hn)
    (Nat.not_le.2 (two_le_length_under hv hne hk hk' hm hm'))

end Dialogue.Json
