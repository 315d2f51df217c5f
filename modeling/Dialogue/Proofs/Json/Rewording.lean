import Dialogue.Proofs.Json.Parsing
import Dialogue.Proofs.Json.Records
import Mathlib.Data.List.Forall2
import Mathlib.Data.List.Nodup
import Mathlib.Logic.Relation

/-!
# Other wordings of a record

The same record can be worded in many ways. The members of each object may come in any order
(`Reordered`), a field may be given under another of its spellings, and members of no field may
come and go (`Rewording`). Such a relation is generated by single steps, and what a reader makes of
a record only depends on the trees under the spellings of each field (`under`), which no step
changes.

* `Reordered.value?_eq`: a tree has the same value in any order;
* `Rewording.under_rel`: in another wording, each field holds what it held.
-/

namespace Dialogue.Json

open Dialogue.Json.Tree

variable {t t' : Tree} {ms ms' : List (Option String × Tree)} {key : String}
  {names : List String}

/-! ## What a field is given -/

theorem under_perm (h : ms.Perm ms') : (under names ms).Perm (under names ms') :=
  (h.filter _).map _

/-- Of what is given at most once, the order does not matter. -/
theorem under_eq_of_perm (h : ms.Perm ms') (hl : (under names ms).length ≤ 1) :
    under names ms = under names ms' := by
  have hp : (under names ms).Perm (under names ms') := under_perm h
  rcases hu : under names ms with _ | ⟨t, _ | ⟨_, _⟩⟩
  · rw [hu] at hp
    exact hp.nil_eq
  · rw [hu] at hp
    exact hp.singleton_eq
  · rw [hu] at hl
    exact absurd hl (by simp)

/-- Without repeated keys, a key is there at most once. -/
theorem length_under_le_one (h : (ms.map (·.1)).Nodup) : (under [key] ms).length ≤ 1 := by
  have hc : (ms.map (·.1)).count (some key) ≤ 1 := List.nodup_iff_count_le_one.1 h _
  rw [List.count, List.countP_map] at hc
  rw [under, List.length_map, ← List.countP_eq_length_filter]
  refine le_of_eq_of_le (List.countP_congr fun m _ => ?_) hc
  obtain ⟨_ | k, t⟩ := m
  · exact iff_of_false Bool.false_ne_true (by simp)
  · rw [isUnder_some, List.mem_singleton]
    simp

theorem lastUnder?_eq (key : String) (ms : List (Option String × Tree)) :
    lastUnder? key ms = (under [key] ms).getLast? := by
  induction ms with
  | nil => rfl
  | cons m ms ih =>
    obtain ⟨_ | k, t⟩ := m
    · rw [lastUnder?, under_cons_none, ih, if_neg (Option.some_ne_none key).symm]
      simp
    · rw [lastUnder?, ih]
      by_cases hk : k ∈ [key]
      · rw [under_cons_of_mem hk, List.mem_singleton.1 hk, if_pos rfl]
        cases under [key] ms with
        | nil => rfl
        | cons t' ts => rw [List.getLast?_cons_cons, List.getLast?_cons]; rfl
      · rw [under_cons_of_not_mem hk, if_neg fun h => hk (List.mem_singleton.2 (Option.some.inj h))]
        simp

/-! ## Members in any order -/

/-- Trees that differ in the order of members alone, of any objects inside that have no repeated
    keys. -/
inductive Reordered : Tree → Tree → Prop
  | refl (t : Tree) : Reordered t t
  | trans {t t' t'' : Tree} : Reordered t t' → Reordered t' t'' → Reordered t t''
  | item {before after : List Tree} {t t' : Tree} : Reordered t t' →
      Reordered (.array (before ++ t :: after)) (.array (before ++ t' :: after))
  | member {before after : List (Option String × Tree)} {key : Option String} {t t' : Tree} :
      Reordered t t' →
      Reordered (.object (before ++ (key, t) :: after)) (.object (before ++ (key, t') :: after))
  | moved {ms ms' : List (Option String × Tree)} : (ms.map (·.1)).Nodup → ms.Perm ms' →
      Reordered (.object ms) (.object ms')

/-- In order, members are told by what stands under each key. -/
theorem Members.eq_of_lookup {vs vs' : List (String × Value)} (h : vs.Pairwise (·.1 < ·.1))
    (h' : vs'.Pairwise (·.1 < ·.1)) (hl : ∀ key, vs.lookup key = vs'.lookup key) : vs = vs' := by
  have hmem {vs : List (String × Value)} (h : vs.Pairwise (·.1 < ·.1)) (m : String × Value) :
      m ∈ vs ↔ vs.lookup m.1 = some m.2 := by
    rw [List.lookup_eq_some_iff]
    constructor
    · intro hm
      obtain ⟨l, l', rfl⟩ := List.append_of_mem hm
      refine ⟨l, l', rfl, fun p hp => bne_iff_ne.2 fun he => ?_⟩
      exact absurd ((List.pairwise_append.1 h).2.2 p hp m List.mem_cons_self)
        (he ▸ String.lt_irrefl _)
    · rintro ⟨l, l', rfl, _⟩
      exact List.mem_append_right _ List.mem_cons_self
  have hn {vs : List (String × Value)} (h : vs.Pairwise (·.1 < ·.1)) : vs.Nodup :=
    h.imp fun {a b} hlt (he : a = b) => String.lt_irrefl b.1 (he ▸ hlt)
  have hp : vs.Perm vs' := (List.perm_ext_iff_of_nodup (hn h) (hn h')).2 fun m => by
    rw [hmem h, hmem h', hl]
  exact hp.eq_of_pairwise (fun a b _ _ hab hba => absurd hab (String.lt_asymm hba)) h h'

/-- A tree has the same value in whatever order its members come. -/
theorem Reordered.value?_eq (h : Reordered t t') : t.value? = t'.value? := by
  induction h with
  | refl => rfl
  | trans _ _ ih ih' => exact ih.trans ih'
  | @item before after t t' _ ih =>
    have hv : values? (before ++ t :: after) = values? (before ++ t' :: after) := by
      induction before with
      | nil => rw [List.nil_append, List.nil_append, values?, values?, ih]
      | cons s before ihb => rw [List.cons_append, List.cons_append, values?, values?, ihb]
    rw [value?, value?, hv]
  | @member before after key t t' _ ih =>
    have hv (acc : List (String × Value)) : memberValues? acc (before ++ (key, t) :: after) =
        memberValues? acc (before ++ (key, t') :: after) := by
      induction before generalizing acc with
      | nil => cases key <;> simp only [List.nil_append, memberValues?, ih]
      | cons m before ihb =>
        obtain ⟨_ | k, s⟩ := m <;> simp only [List.cons_append, memberValues?, ihb]
    rw [value?, value?, hv]
  | @moved ms ms' hn hp =>
    have hr : Readable (.object ms) ↔ Readable (.object ms') := by
      rw [readable_object, readable_object]
      exact ⟨fun h m hm => h m (hp.mem_iff.2 hm), fun h m hm => h m (hp.mem_iff.1 hm)⟩
    by_cases h : Readable (.object ms)
    · obtain ⟨v, hv⟩ := Option.isSome_iff_exists.1 h
      obtain ⟨v', hv'⟩ := Option.isSome_iff_exists.1 (hr.1 h)
      rw [hv, hv']
      obtain ⟨vs, hvs, rfl⟩ := Option.map_eq_some_iff.1 hv
      obtain ⟨vs', hvs', rfl⟩ := Option.map_eq_some_iff.1 hv'
      have ho := (ordered_of_memberValues? hvs .nil (List.forall_mem_nil _)).1
      have ho' := (ordered_of_memberValues? hvs' .nil (List.forall_mem_nil _)).1
      refine congrArg (some ∘ Value.object) (Members.eq_of_lookup ho ho' fun key => ?_)
      rw [lookup_memberValues? hvs, lookup_memberValues? hvs', lastUnder?_eq, lastUnder?_eq,
        under_eq_of_perm hp (length_under_le_one hn)]
    · rw [Option.not_isSome_iff_eq_none.1 h, Option.not_isSome_iff_eq_none.1 (mt hr.2 h)]

/-- A reader to which the order of members does not matter. -/
def Steady {α : Type} (read? : Tree → Option α) : Prop :=
  ∀ {t t' : Tree}, Reordered t t' → read? t = read? t'

section Readers

variable {α β : Type} {read? : Tree → Option α}

/-- Such is a reader of plain values. -/
theorem steady_of_plain (ha : ∀ ts ts', read? (.array ts) = read? (.array ts'))
    (ho : ∀ ms ms', read? (.object ms) = read? (.object ms')) : Steady read? := by
  intro t t' h
  induction h with
  | refl => rfl
  | trans _ _ ih ih' => exact ih.trans ih'
  | item => exact ha _ _
  | member | moved => exact ho _ _

theorem steady_value? : Steady value? := Reordered.value?_eq

theorem steady_string? : Steady string? := steady_of_plain (fun _ _ => rfl) fun _ _ => rfl

theorem steady_bool? : Steady bool? := steady_of_plain (fun _ _ => rfl) fun _ _ => rfl

theorem Reordered.eq_or_ne_null (h : Reordered t t') : t = t' ∨ t ≠ .null ∧ t' ≠ .null := by
  induction h with
  | refl => exact .inl rfl
  | trans _ _ ih ih' =>
    obtain rfl | ih := ih
    · exact ih'
    · obtain rfl | ih' := ih'
      · exact .inr ih
      · exact .inr ⟨ih.1, ih'.2⟩
  | item | member | moved => exact .inr ⟨Tree.noConfusion, Tree.noConfusion⟩

/-- The name of a choice may be the only key of an object, but not one of several. -/
theorem choice?_object_eq_none (h : ms.length ≠ 1) : choice? .direct (.object ms) = none := by
  rcases ms with _ | ⟨m, _ | ⟨m', ms⟩⟩
  · rfl
  · exact absurd rfl h
  · obtain ⟨_ | key, t⟩ := m
    · rfl
    · cases t with
      | object inner => cases inner <;> rfl
      | _ => rfl

theorem steady_choice? : Steady (choice? .direct) := by
  intro t t' h
  induction h with
  | refl => rfl
  | trans _ _ ih ih' => exact ih.trans ih'
  | item => rfl
  | @member before after key t t' h ih =>
    by_cases hl : before = [] ∧ after = []
    · obtain ⟨rfl, rfl⟩ := hl
      obtain rfl | ⟨ht, ht'⟩ := h.eq_or_ne_null
      · rfl
      · -- Only a `null` may stand under the name.
        have hnone {t : Tree} (ht : t ≠ .null) : choice? .direct (.object [(key, t)]) = none := by
          rcases key with _ | key
          · rfl
          · rcases t with _ | _ | _ | _ | _ | ⟨_ | _⟩ | _ <;> first | rfl | exact absurd rfl ht
        exact (hnone ht).trans (hnone ht').symm
    · have hne (t : Tree) : (before ++ (key, t) :: after).length ≠ 1 := by
        rw [List.length_append, List.length_cons, ← List.length_eq_zero_iff,
          ← List.length_eq_zero_iff] at *
        omega
      rw [choice?_object_eq_none (hne t), choice?_object_eq_none (hne t')]
  | @moved ms ms' _ hp =>
    by_cases hl : ms.length = 1
    · obtain ⟨m, rfl⟩ := List.length_eq_one_iff.1 hl
      rw [hp.singleton_eq]
    · rw [choice?_object_eq_none hl, choice?_object_eq_none (hp.length_eq ▸ hl)]

theorem Steady.bind (h : Steady read?) (f : α → Option β) : Steady fun t => (read? t).bind f :=
  fun hr => congrArg (·.bind f) (h hr)

theorem Steady.nullable? (h : Steady read?) : Steady (nullable? read?) := by
  intro t t' hr
  obtain rfl | ⟨ht, ht'⟩ := hr.eq_or_ne_null
  · rfl
  · have hn {t : Tree} (ht : t ≠ .null) : Tree.nullable? read? t = (read? t).map some := by
      unfold Tree.nullable?
      split
      · exact absurd rfl ht
      · rfl
    rw [hn ht, hn ht', h hr]

variable {o o' : Option Tree}

theorem Steady.required? (h : Steady read?) (ho : Option.Rel Reordered o o') :
    required? read? o = required? read? o' := by
  cases ho with
  | none => rfl
  | some hr => exact h hr

theorem Steady.optional? (h : Steady read?) (ho : Option.Rel Reordered o o') :
    optional? read? o = optional? read? o' := by
  cases ho with
  | none => rfl
  | some hr => exact h.nullable? hr

end Readers

/-! ## Other spellings and other members -/

/-- A field: its spellings, and which trees say the same in it. -/
structure Field where
  names : List String
  Same : Tree → Tree → Prop

/-- Records of the same fields in other words. Unless keys are repeated, a field may be given
    under another spelling and the members may come in another order. What a field holds may give
    way to the same, and members of no field may come and go, if what they hold is `Usable`, or
    have their own members in another order. -/
inductive Rewording (fields : List Field) (Usable : Tree → Prop) :
    List (Option String × Tree) → List (Option String × Tree) → Prop
  | refl (ms : List (Option String × Tree)) : Rewording fields Usable ms ms
  | trans {ms ms' ms'' : List (Option String × Tree)} : Rewording fields Usable ms ms' →
      Rewording fields Usable ms' ms'' → Rewording fields Usable ms ms''
  | respelled {before after : List (Option String × Tree)} {f : Field} {key key' : String}
      {t : Tree} : f ∈ fields → key ∈ f.names → key' ∈ f.names →
      ((before ++ (some key, t) :: after).map (·.1)).Nodup →
      Rewording fields Usable (before ++ (some key, t) :: after)
        (before ++ (some key', t) :: after)
  | moved {ms ms' : List (Option String × Tree)} : (ms.map (·.1)).Nodup → ms.Perm ms' →
      Rewording fields Usable ms ms'
  | replaced {before after : List (Option String × Tree)} {f : Field} {key : String}
      {t t' : Tree} : f ∈ fields → key ∈ f.names → f.Same t t' →
      Rewording fields Usable (before ++ (some key, t) :: after)
        (before ++ (some key, t') :: after)
  | added {before after : List (Option String × Tree)} {key : String} {t : Tree} :
      (∀ f ∈ fields, key ∉ f.names) → Usable t →
      Rewording fields Usable (before ++ after) (before ++ (some key, t) :: after)
  | dropped {before after : List (Option String × Tree)} {key : String} {t : Tree} :
      (∀ f ∈ fields, key ∉ f.names) → Usable t →
      Rewording fields Usable (before ++ (some key, t) :: after) (before ++ after)
  | within {before after : List (Option String × Tree)} {key : Option String} {t t' : Tree} :
      (∀ f ∈ fields, ∀ name ∈ f.names, key ≠ some name) → Reordered t t' →
      Rewording fields Usable (before ++ (key, t) :: after) (before ++ (key, t') :: after)

theorem rel_refl {R : Tree → Tree → Prop} (hR : ∀ t, R t t) (o : Option Tree) :
    Option.Rel R o o := by
  cases o with
  | none => exact .none
  | some t => exact .some (hR t)

theorem rel_trans {R : Tree → Tree → Prop} {o o' o'' : Option Tree}
    (h : Option.Rel (Relation.ReflTransGen R) o o')
    (h' : Option.Rel (Relation.ReflTransGen R) o' o'') :
    Option.Rel (Relation.ReflTransGen R) o o'' := by
  cases h with
  | none => exact h'
  | some h =>
    cases h' with
    | some h' => exact .some (h.trans h')

namespace Rewording

variable {fields : List Field} {Usable : Tree → Prop} {f : Field}

/-- What holds of the members of a record holds of them in other words, if keys do not matter
    for it, and the members that come and go have it. -/
theorem forall_iff (h : Rewording fields Usable ms ms') {P : Option String × Tree → Prop}
    (hkey : ∀ key key' t, P (some key, t) → P (some key', t))
    (hsame : ∀ f ∈ fields, ∀ key t t', f.Same t t' → (P (some key, t) ↔ P (some key, t')))
    (husable : ∀ key t, Usable t → P (some key, t))
    (hwithin : ∀ key t t', Reordered t t' → (P (key, t) ↔ P (key, t'))) :
    (∀ m ∈ ms, P m) ↔ ∀ m ∈ ms', P m := by
  induction h with
  | refl => exact .rfl
  | trans _ _ ih ih' => exact ih.trans ih'
  | @respelled _ _ _ key key' t =>
    rw [List.forall_mem_append, List.forall_mem_append, List.forall_mem_cons,
      List.forall_mem_cons, Iff.intro (hkey key key' t) (hkey key' key t)]
  | moved _ hp => exact ⟨fun h m hm => h m (hp.mem_iff.2 hm), fun h m hm => h m (hp.mem_iff.1 hm)⟩
  | @replaced _ _ f key t t' hf _ hs =>
    rw [List.forall_mem_append, List.forall_mem_append, List.forall_mem_cons,
      List.forall_mem_cons, hsame f hf key t t' hs]
  | @added _ _ key t _ hu =>
    rw [List.forall_mem_append, List.forall_mem_append, List.forall_mem_cons,
      and_iff_right (husable key t hu)]
  | @dropped _ _ key t _ hu =>
    rw [List.forall_mem_append, List.forall_mem_append, List.forall_mem_cons,
      and_iff_right (husable key t hu)]
  | @within _ _ key t t' _ hr =>
    rw [List.forall_mem_append, List.forall_mem_append, List.forall_mem_cons,
      List.forall_mem_cons, hwithin key t t' hr]

/-- In other words, each field is given as often, and last of all it is given what leads to
    the same. -/
theorem under_rel (h : Rewording fields Usable ms ms') (hd : Distinct (fields.map (·.names)))
    (hf : f ∈ fields) (hs : (under f.names ms).length ≤ 1 ∨ ∃ key, f.names = [key]) :
    (under f.names ms).length = (under f.names ms').length ∧
      Option.Rel (Relation.ReflTransGen f.Same) (under f.names ms).getLast?
        (under f.names ms').getLast? := by
  have heq {ts ts' : List Tree} (he : ts = ts') : ts.length = ts'.length ∧
      Option.Rel (Relation.ReflTransGen f.Same) ts.getLast? ts'.getLast? := by
    rw [he]
    exact ⟨rfl, rel_refl (fun _ => .refl) _⟩
  induction h with
  | refl => exact heq rfl
  | trans _ _ ih ih' =>
    obtain ⟨hl, hr⟩ := ih hs
    obtain ⟨hl', hr'⟩ := ih' (hs.imp_left (hl ▸ ·))
    exact ⟨hl.trans hl', rel_trans hr hr'⟩
  | @respelled before after g key key' t hg hk hk' =>
    refine heq ?_
    rw [under_append, under_append]
    by_cases hkf : key ∈ f.names
    · have hkf' : key' ∈ f.names := hd.eq_of_mem hg hf hk hkf ▸ hk'
      rw [under_cons_of_mem hkf, under_cons_of_mem hkf']
    · have hkf' : key' ∉ f.names := fun h => hkf (hd.eq_of_mem hg hf hk' h ▸ hk)
      rw [under_cons_of_not_mem hkf, under_cons_of_not_mem hkf']
  | @moved ms ms' hn hp =>
    refine heq (under_eq_of_perm hp ?_)
    obtain hs | ⟨key, hkey⟩ := hs
    · exact hs
    · rw [hkey]
      exact length_under_le_one hn
  | @replaced before after g key t t' hg hk hsame =>
    rw [under_append, under_append]
    by_cases hkf : key ∈ f.names
    · have hst : Relation.ReflTransGen f.Same t t' :=
        .single (hd.eq_of_mem hg hf hk hkf ▸ hsame)
      rw [under_cons_of_mem hkf, under_cons_of_mem hkf]
      refine ⟨by simp, ?_⟩
      -- What is given later comes first.
      cases under f.names after with
      | nil => rw [List.getLast?_concat, List.getLast?_concat]; exact .some hst
      | cons s ts =>
        simpa [List.getLast?_append, List.getLast?_cons] using Relation.ReflTransGen.refl
    · rw [under_cons_of_not_mem hkf, under_cons_of_not_mem hkf]
      exact heq rfl
  | @added before after key t hk =>
    refine heq ?_
    rw [under_append, under_append, under_cons_of_not_mem (hk f hf)]
  | @dropped before after key t hk =>
    refine heq ?_
    rw [under_append, under_append, under_cons_of_not_mem (hk f hf)]
  | @within before after key t t' hk =>
    refine heq ?_
    rw [under_append, under_append]
    cases key with
    | none => rfl
    | some key =>
      have hn : key ∉ f.names := fun h => hk f hf key h rfl
      rw [under_cons_of_not_mem hn, under_cons_of_not_mem hn]

/-- In other words, the fields can be told as before. -/
theorem fields?_eq (h : Rewording fields Usable ms ms') (hd : Distinct (fields.map (·.names)))
    {fs : List (Option Tree)} (hf : (Tree.object ms).fields? (fields.map (·.names)) = some fs) :
    fs = fields.map (fun f => (under f.names ms).getLast?) ∧
      (Tree.object ms').fields? (fields.map (·.names)) =
        some (fields.map fun f => (under f.names ms').getLast?) ∧
      ∀ f ∈ fields, Option.Rel (Relation.ReflTransGen f.Same) (under f.names ms).getLast?
        (under f.names ms').getLast? := by
  obtain ⟨ht, hl, rfl⟩ := (fields?_object_iff hd).1 hf
  have hl : ∀ f ∈ fields, (under f.names ms).length ≤ 1 := List.forall_mem_map.1 hl
  have hmap (ms : List (Option String × Tree)) :
      ((fields.map (·.names)).map fun names => (under names ms).getLast?) =
        fields.map fun f => (under f.names ms).getLast? := List.map_map
  refine ⟨hmap ms, (fields?_object_iff hd).2 ⟨?_, ?_, (hmap ms').symm⟩, fun f hf => ?_⟩
  · exact (h.forall_iff (fun _ _ _ _ => rfl) (fun _ _ _ _ _ _ => .rfl) (fun _ _ _ => rfl)
      fun _ _ _ _ => .rfl).1 ht
  · exact List.forall_mem_map.2 fun f hf => (h.under_rel hd hf (.inl (hl f hf))).1 ▸ hl f hf
  · exact (h.under_rel hd hf (.inl (hl f hf))).2

end Rewording

/-! ## Records of plain values -/

/-- The fields with some spellings, each of which holds any value. -/
def plainFields (spellings : List (List String)) : List Field :=
  spellings.map fun names => ⟨names, Reordered⟩

/-- Records in other words, as objects or as arrays of their fields. -/
inductive SameRecord (fields : List Field) (Usable : Tree → Prop) : Tree → Tree → Prop
  | object {ms ms' : List (Option String × Tree)} : Rewording fields Usable ms ms' →
      SameRecord fields Usable (.object ms) (.object ms')
  | item {before after : List Tree} {t t' : Tree} : Reordered t t' →
      SameRecord fields Usable (.array (before ++ t :: after)) (.array (before ++ t' :: after))

theorem names_plainFields (spellings : List (List String)) :
    (plainFields spellings).map (·.names) = spellings := by
  rw [plainFields, List.map_map]
  exact List.map_id _

theorem Reordered.of_chain (h : Relation.ReflTransGen Reordered t t') : Reordered t t' := by
  induction h with
  | refl => exact .refl t
  | tail _ h ih => exact ih.trans h

theorem rel_of_chain {o o' : Option Tree}
    (h : Option.Rel (Relation.ReflTransGen Reordered) o o') : Option.Rel Reordered o o' := by
  cases h with
  | none => exact .none
  | some h => exact .some (.of_chain h)

/-- The fields of a record of plain values hold the same values in other words. -/
theorem SameRecord.fields? {spellings : List (List String)} {Usable : Tree → Prop}
    (h : SameRecord (plainFields spellings) Usable t t') (hs : Distinct spellings)
    {fs : List (Option Tree)} (hf : t.fields? spellings = some fs) :
    ∃ fs', t'.fields? spellings = some fs' ∧ List.Forall₂ (Option.Rel Reordered) fs fs' := by
  cases h with
  | @object ms ms' h =>
    have hn := names_plainFields spellings
    obtain ⟨rfl, hf', hr⟩ := h.fields?_eq (hn.symm ▸ hs) (hn.symm ▸ hf)
    rw [hn] at hf'
    refine ⟨_, hf', ?_⟩
    rw [List.forall₂_map_left_iff, List.forall₂_map_right_iff, List.forall₂_same]
    intro f hf
    have hsame : f.Same = Reordered := by
      obtain ⟨names, _, rfl⟩ := List.mem_map.1 hf
      rfl
    exact rel_of_chain (hsame ▸ hr f hf)
  | @item before after t t' h =>
    have hsame (os : List (Option Tree)) : List.Forall₂ (Option.Rel Reordered) os os :=
      List.forall₂_same.2 fun o _ => rel_refl .refl o
    have hl : (before ++ t' :: after).length = (before ++ t :: after).length := by simp
    rw [Tree.fields?] at hf ⊢
    split_ifs at hf with hn
    obtain rfl := Option.some.inj hf
    refine ⟨_, if_pos (hl ▸ hn), ?_⟩
    rw [hl, List.map_append, List.map_append, List.map_cons, List.map_cons]
    exact List.rel_append (List.rel_append (hsame _) (.cons (.some h) (hsame _))) (hsame _)

/-! ## Readers that do not mind -/

/-- Lists that say the same item by item. -/
inductive SameList (Same : Tree → Tree → Prop) : Tree → Tree → Prop
  | item {before after : List Tree} {t t' : Tree} : Same t t' →
      SameList Same (.array (before ++ t :: after)) (.array (before ++ t' :: after))

/-- A reader that reads the same from what says the same. -/
def Keeps {α : Type} (Same : Tree → Tree → Prop) (read? : Tree → Option α) : Prop :=
  ∀ t t' a, Same t t' → read? t = some a → read? t' = some a

namespace Keeps

variable {α : Type} {Same : Tree → Tree → Prop} {read? : Tree → Option α}

theorem chain (h : Keeps Same read?) : Keeps (Relation.ReflTransGen Same) read? := by
  intro t t' a hc ha
  induction hc with
  | refl => exact ha
  | tail _ hs ih => exact h _ _ a hs ih

theorem list? (h : Keeps Same read?) : Keeps (SameList Same) (list? read?) := by
  rintro _ _ as @⟨before, after, t, t', hs⟩ ha
  rw [Tree.list?, List.mapM_append, List.mapM_cons, Option.bind_eq_bind,
    Option.bind_eq_some_iff] at ha ⊢
  obtain ⟨bs, hb, ha⟩ := ha
  refine ⟨bs, hb, ?_⟩
  rw [Option.bind_eq_bind, Option.bind_eq_some_iff] at ha ⊢
  obtain ⟨cs, hc, ha⟩ := ha
  obtain ⟨c, ht, hc⟩ := Option.bind_eq_some_iff.1 hc
  exact ⟨cs, Option.bind_eq_some_iff.2 ⟨c, h _ _ c hs ht, hc⟩, ha⟩

theorem required? (h : Keeps Same read?) {o o' : Option Tree} (ho : Option.Rel Same o o') {a : α}
    (ha : Tree.required? read? o = some a) : Tree.required? read? o' = some a := by
  cases ho with
  | none => exact ha
  | some hs => exact h _ _ a hs ha

end Keeps

end Dialogue.Json
