import Dialogue.Event.Decode
import Dialogue.Proofs.Json.Evaluating

/-!
# Payloads in other words

A server may word the payload of an event in many ways. Which fields an event has, under which
spellings, is told by a table for each event. What is read of a payload does not depend on which
of its spellings a field is given under, on the order of members, or on members that the event
has no field for.

* `keeps_runId?`, `keeps_update`, `pendingTools?_reworded`: payloads that are read on the way, in
  which a member of no field is skipped, whatever it holds (`anything`);
* `report?_same`, `reason?_reworded`: those that are read as a value first, in which such a member
  must have one: a number too large for the format, half of a surrogate pair and what is nested
  too deep have none.

A report of tokens may have its account beside its source or under `usage`. It says the same in
either place (`report?_moves`), but only one of them is looked at.
-/

namespace Dialogue

open Json

namespace Payload

variable {t t' : Tree} {ms ms' : List (Option String × Tree)}

/-! ## Fields -/

/-- What a member may hold that is skipped. -/
def anything (_ : Tree) : Prop := True

/-- The field of an accepted turn. -/
def runFields : List Field := plainFields [["run_id", "runId"]]

/-- The fields of an update of a call. -/
def updateFields : List Field := plainFields toolSpellings

theorem distinct_toolSpellings : Distinct toolSpellings := by decide

/-- The field of pending calls, each of which may be in other words. -/
def pendingFields : List Field :=
  [⟨["executions", "tools"], SameList (SameRecord updateFields anything)⟩]

/-- The fields of an account. -/
def accountFields : List Field := plainFields Usage.spellings

/-- The fields of a report that has its account beside its source. -/
def flatFields : List Field := plainFields (["source"] :: Usage.spellings)

theorem distinct_flat : Distinct (["source"] :: Usage.spellings) := by decide

theorem distinct_account : Distinct Usage.spellings := (List.pairwise_cons.1 distinct_flat).2

/-- The fields of a report that has its account under `usage`. -/
def nestedFields : List Field :=
  [⟨["source"], Reordered⟩, ⟨["usage"], SameRecord accountFields Readable⟩]

/-- The fields of the time to the first token. -/
def firstTokenFields : List Field := plainFields [["duration_ms"], ["duration"]]

/-- The field of a completion. -/
def completionFields : List Field := plainFields [["duration_ms"]]

/-- The fields of a failure. Either may hold an object that has the reason under `message`. -/
def failureFields : List Field :=
  [⟨["message"], SameRecord (plainFields [["message"]]) Readable⟩,
    ⟨["error"], SameRecord (plainFields [["message"]]) Readable⟩]

/-! ## Records that are read on the way -/

theorem keeps_runId? : Keeps (SameRecord runFields anything) runId? := by
  intro t t' runId h hr
  unfold runId? at hr ⊢
  obtain ⟨fs, hf, hr⟩ := Option.bind_eq_some_iff.1 hr
  obtain ⟨fs', hf', hs⟩ := h.fields? (by decide) hf
  rw [hf', Option.bind_eq_bind, Option.bind_some]
  split at hr
  · obtain _ | ⟨h, _ | _⟩ := hs
    exact (steady_string?.required? h).symm.trans hr
  · cases hr

theorem keeps_update : Keeps (SameRecord updateFields anything) ToolUpdate.ofTree? := by
  intro t t' u h hu
  have hstatus : Steady (ToolStatus.ofTree? .direct) := steady_choice?.bind ToolStatus.ofName?
  unfold ToolUpdate.ofTree? at hu ⊢
  obtain ⟨fs, hf, hu⟩ := Option.bind_eq_some_iff.1 hu
  obtain ⟨fs', hf', hs⟩ := h.fields? distinct_toolSpellings hf
  rw [hf', Option.bind_eq_bind, Option.bind_some]
  split at hu
  · obtain _ | ⟨h₁, _ | ⟨h₂, _ | ⟨h₃, _ | ⟨h₄, _ | ⟨h₅, _ | ⟨h₆, _ | ⟨h₇, _ | ⟨h₈, _ | _⟩⟩⟩⟩⟩⟩⟩⟩ :=
      hs
    rw [steady_string?.required? h₁, steady_string?.optional? h₂, steady_string?.optional? h₃,
      steady_value?.optional? h₄, hstatus.optional? h₅, steady_value?.optional? h₆,
      steady_string?.optional? h₇, steady_bool?.optional? h₈] at hu
    exact hu
  · cases hu

theorem pendingTools?_reworded (h : Rewording pendingFields anything ms ms')
    {us : List ToolUpdate} (hu : pendingTools? (.object ms) = some us) :
    pendingTools? (.object ms') = some us := by
  unfold pendingTools? at hu ⊢
  obtain ⟨fs, hf, hu⟩ := Option.bind_eq_some_iff.1 hu
  obtain ⟨rfl, hf', hr⟩ := h.fields?_eq (by decide) hf
  obtain ⟨us, hl, hu⟩ := Option.bind_eq_some_iff.1 hu
  have hl := keeps_update.list?.chain.required? (hr _ List.mem_cons_self) hl
  exact Option.bind_eq_some_iff.2 ⟨_, hf', Option.bind_eq_some_iff.2 ⟨us, hl, hu⟩⟩

/-! ## Reports -/

/-- The account that is told by the value of a tree. -/
def account? (t : Tree) : Option Usage :=
  t.value?.bind fun v => Usage.ofTree? v.toTree

/-- The report that is told by the value of a tree. -/
def report? (t : Tree) : Option (Usage × UsageSource) :=
  t.value?.bind usageReport?

theorem ofTree?_congr (h : ∀ fs, t.fields? Usage.spellings = some fs →
    t'.fields? Usage.spellings = some fs) {u : Usage} (hu : Usage.ofTree? t = some u) :
    Usage.ofTree? t' = some u := by
  unfold Usage.ofTree? at hu ⊢
  obtain ⟨fs, hf, hu⟩ := Option.bind_eq_some_iff.1 hu
  exact Option.bind_eq_some_iff.2 ⟨fs, h fs hf, hu⟩

theorem keeps_account? : Keeps (SameRecord accountFields Readable) account? := by
  intro t t' u h hu
  cases h with
  | @object ms ms' h =>
    obtain ⟨v, hv, hu⟩ := Option.bind_eq_some_iff.1 hu
    obtain ⟨vs, _, rfl⟩ := Option.map_eq_some_iff.1 hv
    obtain ⟨vs', hv'⟩ := (h.readable_iff_of_plain.1 (readable_of_value? hv)).exists_object
    refine Option.bind_eq_some_iff.2 ⟨_, hv', ?_⟩
    exact ofTree?_congr (fun fs => h.fields?_toTree distinct_account (.refl _) hv hv') hu
  | @item before after t t' h =>
    have he : (Tree.array (before ++ t :: after)).value? =
      (Tree.array (before ++ t' :: after)).value? := (Reordered.item h).value?_eq
    rwa [account?, ← he]

/-- A report has its account under `usage`, which the last member with this key tells. -/
def Nested (ms : List (Option String × Tree)) : Prop :=
  ∃ account, lastUnder? "usage" ms = some (.object account)

/-- The members of an account, and those that may stand beside them. -/
structure Moves (account rest : List (Option String × Tree)) : Prop where
  account : ∀ m ∈ account, ∃ names ∈ Usage.spellings, isUnder names m = true
  rest : ∀ names ∈ ["usage"] :: Usage.spellings, under names rest = []

/-- Reports that say the same. If both have their account under `usage`, or both beside the
    source, their members are reworded. Between the two, the members of the account are moved. -/
inductive SameReport :
    List (Option String × Tree) → List (Option String × Tree) → Prop
  | trans {ms ms' ms'' : List (Option String × Tree)} : SameReport ms ms' →
      SameReport ms' ms'' → SameReport ms ms''
  | nested {ms ms' : List (Option String × Tree)} : Nested ms →
      Rewording nestedFields Readable ms ms' → SameReport ms ms'
  | flat {ms ms' : List (Option String × Tree)} : ¬Nested ms → ¬Nested ms' →
      Rewording flatFields Readable ms ms' → SameReport ms ms'
  | nest {account rest : List (Option String × Tree)} : Moves account rest →
      SameReport (account ++ rest) ((some "usage", .object account) :: rest)
  | flatten {account rest : List (Option String × Tree)} : Moves account rest →
      SameReport ((some "usage", .object account) :: rest) (account ++ rest)

theorem get?_usage {v : Value} (hv : (Tree.object ms).value? = some v) :
    v.get? "usage" = (lastUnder? "usage" ms).bind Tree.value? := by
  rw [get?_of_value? hv, lastUnder?_eq]

theorem report?_eq_some_iff {r : Usage × UsageSource} : report? t = some r ↔
    ∃ v, t.value? = some v ∧ usageSource? v = some r.2 ∧ usageAccount? v = some r.1 := by
  rw [report?, Option.bind_eq_some_iff]
  refine exists_congr fun v => and_congr_right fun _ => ?_
  rw [usageReport?, Option.bind_eq_bind, Option.bind_eq_some_iff]
  constructor
  · rintro ⟨source, hs, h⟩
    obtain ⟨account, ha, h⟩ := Option.bind_eq_some_iff.1 h
    obtain rfl := Option.some.inj h
    exact ⟨hs, ha⟩
  · rintro ⟨hs, ha⟩
    exact ⟨r.2, hs, Option.bind_eq_some_iff.2 ⟨r.1, ha, rfl⟩⟩

/-- A report says the same if it has the same source and the same account. -/
theorem report?_congr {v v' : Value} (hv : t.value? = some v) (hv' : t'.value? = some v')
    (hs : v.get? "source" = v'.get? "source")
    (ha : ∀ u, usageAccount? v = some u → usageAccount? v' = some u)
    {r : Usage × UsageSource} (hr : report? t = some r) : report? t' = some r := by
  obtain ⟨w, hw, hsource, haccount⟩ := report?_eq_some_iff.1 hr
  obtain rfl := Option.some.inj (hv.symm.trans hw)
  rw [usageSource?, hs] at hsource
  exact report?_eq_some_iff.2 ⟨v', hv', hsource, ha _ haccount⟩

/-- The account of a nested report is the one under `usage`. -/
theorem usageAccount?_nested {v : Value} {account : List (Option String × Tree)}
    (hv : (Tree.object ms).value? = some v)
    (hu : lastUnder? "usage" ms = some (.object account)) :
    usageAccount? v = account? (.object account) := by
  have hr : Readable (.object account) :=
    readable_of_mem_under hv (List.mem_of_getLast? ((lastUnder?_eq _ _).symm.trans hu))
  obtain ⟨vs, hw⟩ := hr.exists_object
  rw [usageAccount?, get?_usage hv, hu, Option.bind_some, account?, hw]
  rfl

/-- That of a flat one is beside the source. -/
theorem usageAccount?_flat {v : Value} (hv : (Tree.object ms).value? = some v)
    (hu : ¬Nested ms) : usageAccount? v = account? (.object ms) := by
  rw [account?, hv, Option.bind_some, usageAccount?, get?_usage hv]
  split
  · next vs h =>
    obtain ⟨t, ht, hw⟩ := Option.bind_eq_some_iff.1 h
    cases t with
    | object account => exact absurd ⟨account, ht⟩ hu
    | _ => simp [Tree.value?] at hw
  · rfl

theorem report?_nested (hn : Nested ms) (h : Rewording nestedFields Readable ms ms')
    {r : Usage × UsageSource} (hr : report? (.object ms) = some r) :
    report? (.object ms') = some r := by
  have hiff : Readable (.object ms) ↔ Readable (.object ms') := by
    refine h.readable_iff (fun f hf t t' hs => ?_) fun _ h => h
    rcases List.mem_pair.1 hf with rfl | rfl
    · exact Reordered.readable_iff hs
    · exact SameRecord.readable_iff hs
  obtain ⟨v, hv, _⟩ := report?_eq_some_iff.1 hr
  obtain ⟨vs', hv'⟩ := (hiff.1 (readable_of_value? hv)).exists_object
  have hd : Distinct (nestedFields.map (·.names)) := by decide
  refine report?_congr hv hv' (h.get?_eq hd List.mem_cons_self hv hv') (fun u hu => ?_) hr
  obtain ⟨account, hl⟩ := hn
  rw [usageAccount?_nested hv hl] at hu
  have hu' := (h.under_rel hd (List.mem_cons_of_mem _ List.mem_cons_self)
    (.inr ⟨"usage", rfl⟩)).2
  rw [← lastUnder?_eq, ← lastUnder?_eq, hl] at hu'
  cases hl' : lastUnder? "usage" ms' with
  | none =>
    rw [hl'] at hu'
    cases hu'
  | some t' =>
    rw [hl'] at hu'
    cases hu' with
    | some hc =>
      obtain ⟨account', rfl⟩ := SameRecord.of_chain hc
      rw [usageAccount?_nested hv' hl']
      exact keeps_account?.chain _ _ u hc hu

theorem report?_flat (hn : ¬Nested ms) (hn' : ¬Nested ms')
    (h : Rewording flatFields Readable ms ms') {r : Usage × UsageSource}
    (hr : report? (.object ms) = some r) : report? (.object ms') = some r := by
  obtain ⟨v, hv, _⟩ := report?_eq_some_iff.1 hr
  obtain ⟨vs, _, rfl⟩ := Option.map_eq_some_iff.1 hv
  obtain ⟨vs', hv'⟩ := (h.readable_iff_of_plain.1 (readable_of_value? hv)).exists_object
  have hd : Distinct (flatFields.map (·.names)) :=
    (names_plainFields _).symm ▸ distinct_flat
  refine report?_congr hv hv' (h.get?_eq hd List.mem_cons_self hv hv') (fun u hu => ?_) hr
  rw [usageAccount?_flat hv hn, account?, hv, Option.bind_some] at hu
  rw [usageAccount?_flat hv' hn', account?, hv', Option.bind_some]
  refine ofTree?_congr (fun fs => h.fields?_toTree distinct_flat ?_ hv hv') hu
  exact List.sublist_cons_self _ _

theorem under_account {account rest : List (Option String × Tree)} (hm : Moves account rest)
    {key : String} (hk : ∀ names ∈ Usage.spellings, key ∉ names) : under [key] account = [] := by
  refine under_eq_nil_iff.2 fun k t hmem hkk => ?_
  obtain ⟨names, hn, hkn⟩ := hm.account _ hmem
  exact hk names hn (List.mem_singleton.1 hkk ▸ isUnder_some.1 hkn)

/-- The account is told by its members, whether others stand beside them or not. -/
theorem account?_moves {account rest : List (Option String × Tree)} (hm : Moves account rest)
    (hr : Readable (.object (account ++ rest))) :
    account? (.object (account ++ rest)) = account? (.object account) := by
  have hr' : Readable (.object account) := by
    rw [readable_object] at hr ⊢
    exact fun m hm => hr m (List.mem_append_left _ hm)
  obtain ⟨vs, hv⟩ := hr.exists_object
  obtain ⟨vs', hv'⟩ := hr'.exists_object
  rw [account?, account?, hv, hv', Option.bind_some, Option.bind_some, Usage.ofTree?,
    Usage.ofTree?, fields?_toTree_congr distinct_account fun names hn =>
      under_toMembers_eq hv hv' fun key hk => ?_]
  rw [under_append, under_eq_nil (hm.rest names (List.mem_cons_of_mem _ hn)) hk, List.append_nil]

/-- Moving the members of the account does not change what is said. -/
theorem report?_moves {account rest : List (Option String × Tree)} (hm : Moves account rest) :
    report? (.object (account ++ rest)) =
      report? (.object ((some "usage", .object account) :: rest)) := by
  have hiff : Readable (.object (account ++ rest)) ↔
      Readable (.object ((some "usage", .object account) :: rest)) := by
    rw [readable_object, readable_object, List.forall_mem_append, List.forall_mem_cons,
      readable_object]
    exact and_congr_left fun _ => (and_iff_right rfl).symm
  by_cases hr : Readable (.object (account ++ rest))
  · obtain ⟨vs, hv⟩ := hr.exists_object
    obtain ⟨vs', hv'⟩ := (hiff.1 hr).exists_object
    have hrest : under ["usage"] rest = [] := hm.rest _ List.mem_cons_self
    have hflat : ¬Nested (account ++ rest) := by
      rintro ⟨_, h⟩
      rw [lastUnder?_eq, under_append, under_account hm (by decide), hrest] at h
      cases h
    have hnested : lastUnder? "usage" ((some "usage", .object account) :: rest) =
        some (.object account) := by
      rw [lastUnder?_eq, under_cons_of_mem List.mem_cons_self, hrest]
      rfl
    have hsource : (Value.object vs).get? "source" = (Value.object vs').get? "source" := by
      rw [get?_of_value? hv, get?_of_value? hv', under_append, under_account hm (by decide),
        under_cons_of_not_mem (by decide), List.nil_append]
    rw [report?, report?, hv, hv', Option.bind_some, Option.bind_some, usageReport?, usageReport?,
      usageSource?, usageSource?, hsource, usageAccount?_flat hv hflat,
      usageAccount?_nested hv' hnested, account?_moves hm hr]
  · rw [report?, report?, Option.not_isSome_iff_eq_none.1 hr,
      Option.not_isSome_iff_eq_none.1 (mt hiff.2 hr)]

theorem report?_same (h : SameReport ms ms') {r : Usage × UsageSource}
    (hr : report? (.object ms) = some r) : report? (.object ms') = some r := by
  induction h with
  | trans _ _ ih ih' => exact ih' (ih hr)
  | nested hn h => exact report?_nested hn h hr
  | flat hn hn' h => exact report?_flat hn hn' h hr
  | nest hm => exact (report?_moves hm).symm.trans hr
  | flatten hm => exact (report?_moves hm).trans hr

/-! ## Times and reasons -/

theorem timeUnder?_congr {keys : List String} {v v' : Value}
    (h : ∀ key ∈ keys, v.get? key = v'.get? key) : timeUnder? keys v = timeUnder? keys v' := by
  induction keys with
  | nil => rfl
  | cons key keys ih =>
    rw [List.forall_mem_cons] at h
    have hk : timeUnder? keys v = timeUnder? keys v' := ih h.2
    unfold timeUnder? at hk ⊢
    rw [List.findSome?_cons, List.findSome?_cons, h.1, hk]

/-- The reason that a tree tells by its value. -/
def told? (t : Tree) : Option String :=
  t.value?.bind fun
    | .string s => if s = "" then none else some s
    | .object members => ((Value.object members).get? "message").bind Value.string?
    | _ => none

theorem reasonUnder?_eq {v : Value} (hv : (Tree.object ms).value? = some v) (key : String) :
    reasonUnder? v key = (under [key] ms).getLast?.bind told? := by
  rw [reasonUnder?, get?_of_value? hv]
  cases (under [key] ms).getLast? with
  | none => rfl
  | some t =>
    rw [Option.bind_some, Option.bind_some, told?]
    rcases t.value? with _ | _ | _ | _ | _ | _ | _ <;> rfl

theorem told?_same (h : SameRecord (plainFields [["message"]]) Readable t t') :
    told? t = told? t' := by
  cases h with
  | @object ms ms' h =>
    by_cases hr : Readable (.object ms)
    · obtain ⟨vs, hv⟩ := hr.exists_object
      obtain ⟨vs', hv'⟩ := (h.readable_iff_of_plain.1 hr).exists_object
      have he := h.get?_eq (by decide) List.mem_cons_self hv hv'
      rw [told?, told?, hv, hv', Option.bind_some, Option.bind_some]
      exact congrArg (·.bind Value.string?) he
    · rw [told?, told?, Option.not_isSome_iff_eq_none.1 hr,
        Option.not_isSome_iff_eq_none.1 (mt h.readable_iff_of_plain.2 hr)]
  | item h => rw [told?, told?, (Reordered.item h).value?_eq]

theorem told?_chain {o o' : Option Tree}
    (h : Option.Rel
      (Relation.ReflTransGen (SameRecord (plainFields [["message"]]) Readable)) o o') :
    o.bind told? = o'.bind told? := by
  cases h with
  | none => rfl
  | some h =>
    rw [Option.bind_some, Option.bind_some]
    induction h with
    | refl => rfl
    | tail _ hs ih => exact ih.trans (told?_same hs)

/-- The reason of a failure is the same in other words, if it is told at all. -/
theorem reason?_reworded (h : Rewording failureFields Readable ms ms') :
    (Tree.object ms).value?.bind reason? = (Tree.object ms').value?.bind reason? := by
  have hiff : Readable (.object ms) ↔ Readable (.object ms') := by
    refine h.readable_iff (fun f hf t t' hs => ?_) fun _ h => h
    rcases List.mem_pair.1 hf with rfl | rfl <;> exact SameRecord.readable_iff hs
  by_cases hr : Readable (.object ms)
  · obtain ⟨vs, hv⟩ := hr.exists_object
    obtain ⟨vs', hv'⟩ := (hiff.1 hr).exists_object
    have hd : Distinct (failureFields.map (·.names)) := by decide
    have hm := told?_chain (h.under_rel hd List.mem_cons_self (.inr ⟨"message", rfl⟩)).2
    have he := told?_chain
      (h.under_rel hd (List.mem_cons_of_mem _ List.mem_cons_self) (.inr ⟨"error", rfl⟩)).2
    rw [hv, hv', Option.bind_some, Option.bind_some, reason?, reason?]
    simp only [List.findSome?_cons, List.findSome?_nil, reasonUnder?_eq hv, reasonUnder?_eq hv',
      hm, he]
  · rw [Option.not_isSome_iff_eq_none.1 hr, Option.not_isSome_iff_eq_none.1 (mt hiff.2 hr)]

end Payload

end Dialogue
