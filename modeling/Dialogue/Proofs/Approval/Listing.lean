import Dialogue.Proofs.Approval

/-!
# Which calls can be decided

A message may have several segments of one call. What counts is the last of them
(`Message.HasLast`), while the place of the call among the others is that of its first one
(`Message.place`). So a call that could be decided once, but whose last snapshot says otherwise,
cannot be decided, and a call does not change places when there is a later snapshot of it.

* `isSource_iff`: whose calls can be decided, told by the message and not by the search for it;
* `mem_lastSnapshots_iff`: what is kept of each call;
* `pairwise_lastSnapshots`: in which order, by induction on the segments from the back;
* `approvable_lists_last_snapshots`: so exactly these calls can be decided, each once.
-/

namespace Dialogue

/-! ## The message -/

/-- The message in progress, and without one the last finalized message of the assistant. -/
inductive IsSource (current : Option Message) (finalized : List Message) (m : Message) : Prop
  | current : current = some m → IsSource current finalized m
  | finalized {before after : List Message} : current = none → m.isAssistant = true →
      finalized = before ++ m :: after → (∀ m' ∈ after, m'.isAssistant = false) →
      IsSource current finalized m

theorem isSource_iff {current : Option Message} {finalized : List Message} {m : Message} :
    IsSource current finalized m ↔ approvalSource current finalized = some m := by
  cases current with
  | some c =>
    refine ⟨fun h => ?_, fun h => .current h⟩
    cases h with
    | current h => exact h
    | finalized h => cases h
  | none =>
    change _ ↔ finalized.reverse.find? Message.isAssistant = some m
    rw [List.find?_eq_some_iff_append]
    constructor
    · intro h
      cases h with
      | current h => cases h
      | @finalized before after _ hm hf ha =>
        refine ⟨hm, after.reverse, before.reverse, by simp [hf], fun m' hm' => ?_⟩
        rw [ha m' (List.mem_reverse.1 hm')]
        rfl
    · rintro ⟨hm, before, after, hf, hb⟩
      have hsplit : finalized = after.reverse ++ m :: before.reverse := by
        rw [← List.reverse_reverse finalized, hf]
        simp
      refine .finalized rfl hm hsplit fun m' hm' => ?_
      exact (Bool.not_eq_true' _).mp (hb m' (List.mem_reverse.1 hm'))

/-! ## What is kept of each call -/

/-- The last segment of a call has this snapshot of it. -/
def Message.HasLast (m : Message) (e : ToolExecution) : Prop :=
  ∃ before id after, m.segments = before ++ .tool id e :: after ∧
    ∀ s ∈ after, ∀ e' ∈ s.execution?, e'.callId ≠ e.callId

/-- Where a message has the first segment of a call. -/
def Message.place (m : Message) (callId : String) : Nat :=
  m.segments.findIdx fun s => s.execution?.any (·.callId = callId)

/-- The last element of those with a property is followed by none. -/
theorem getLast?_filter_eq_some_iff {α : Type} {p : α → Bool} {as : List α} {a : α} :
    (as.filter p).getLast? = some a ↔
      p a = true ∧ ∃ before after, as = before ++ a :: after ∧ ∀ a' ∈ after, p a' = false := by
  rw [List.getLast?_eq_head?_reverse, ← List.filter_reverse, List.head?_filter,
    List.find?_eq_some_iff_append]
  refine and_congr_right fun _ => ⟨?_, ?_⟩
  · rintro ⟨before, after, ha, hb⟩
    refine ⟨after.reverse, before.reverse, ?_, fun a' ha' => ?_⟩
    · rw [← List.reverse_reverse as, ha]
      simp
    · exact (Bool.not_eq_true' _).mp (hb a' (List.mem_reverse.1 ha'))
  · rintro ⟨before, after, rfl, ha⟩
    refine ⟨after.reverse, before.reverse, by simp, fun a' ha' => ?_⟩
    rw [ha a' (List.mem_reverse.1 ha')]
    rfl

/-- A snapshot is kept if no later one is of the same call. -/
theorem mem_lastSnapshots_iff {executions : List ToolExecution} {e : ToolExecution} :
    e ∈ lastSnapshots executions ↔
      ∃ before after, executions = before ++ e :: after ∧ ∀ e' ∈ after, e'.callId ≠ e.callId := by
  have hm : e ∈ lastSnapshots executions ↔
      e ∈ (lastSnapshots executions).filter (·.callId = e.callId) := by
    simp [List.mem_filter]
  rw [hm, filter_lastSnapshots, Option.mem_toList, getLast?_filter_eq_some_iff]
  simp

/-- The calls of a message in segments are those in order, so the last one is the same. -/
theorem Message.hasLast_iff {m : Message} {e : ToolExecution} :
    m.HasLast e ↔ e ∈ lastSnapshots m.executions := by
  rw [mem_lastSnapshots_iff, HasLast, executions]
  constructor
  · rintro ⟨before, id, after, hs, ha⟩
    refine ⟨before.filterMap Segment.execution?, after.filterMap Segment.execution?, ?_, ?_⟩
    · rw [hs, List.filterMap_append]
      rfl
    · intro e' he'
      obtain ⟨s, hs, he⟩ := List.mem_filterMap.1 he'
      exact ha s hs e' he
  · rintro ⟨before, after, he, ha⟩
    obtain ⟨front, rest, hs, -, hr⟩ := List.filterMap_eq_append_iff.1 he
    obtain ⟨texts, s, back, rfl, -, hse, rfl⟩ := List.filterMap_eq_cons_iff.1 hr
    cases s with
    | text id words => cases hse
    | tool id e' =>
      obtain rfl := Option.some.inj hse
      refine ⟨front ++ texts, id, back, by rw [hs, List.append_assoc], fun s hs e'' he'' => ?_⟩
      exact ha e'' (List.mem_filterMap.2 ⟨s, hs, he''⟩)

/-! ## In which order -/

theorem mem_callIds_lastSnapshots {executions : List ToolExecution} {callId : String} :
    callId ∈ (lastSnapshots executions).map (·.callId) ↔
      callId ∈ executions.map (·.callId) := by
  induction executions using List.reverseRecOn with
  | nil => rfl
  | append_singleton executions e ih =>
    have hl : lastSnapshots (executions ++ [e]) = noteSnapshot (lastSnapshots executions) e :=
      List.foldl_concat ..
    rw [hl, callIds_noteSnapshot, List.map_append, List.map_singleton]
    split
    · next he =>
      rw [ih, List.mem_append, List.mem_singleton]
      exact ⟨.inl, fun h => h.elim id fun h => ih.1 (h ▸ he)⟩
    · rw [List.mem_append, List.mem_append, ih]

/-- What is kept stands in the order in which the calls came up first. -/
theorem pairwise_lastSnapshots (executions : List ToolExecution) :
    ((lastSnapshots executions).map (·.callId)).Pairwise fun c c' =>
      (executions.map (·.callId)).idxOf c < (executions.map (·.callId)).idxOf c' := by
  induction executions using List.reverseRecOn with
  | nil => exact .nil
  | append_singleton executions e ih =>
    have hl : lastSnapshots (executions ++ [e]) = noteSnapshot (lastSnapshots executions) e :=
      List.foldl_concat ..
    rw [hl, callIds_noteSnapshot, List.map_append, List.map_singleton]
    -- One snapshot more does not move the first of any call before it.
    have hk : ∀ c ∈ (lastSnapshots executions).map (·.callId),
        (executions.map (·.callId) ++ [e.callId]).idxOf c = (executions.map (·.callId)).idxOf c :=
      fun c hc => List.idxOf_append_of_mem (mem_callIds_lastSnapshots.1 hc)
    have ih' : ((lastSnapshots executions).map (·.callId)).Pairwise fun c c' =>
        (executions.map (·.callId) ++ [e.callId]).idxOf c <
          (executions.map (·.callId) ++ [e.callId]).idxOf c' := by
      refine ih.imp_of_mem fun hc hc' h => ?_
      rw [hk _ hc, hk _ hc']
      exact h
    split
    · exact ih'
    · next hn =>
      refine List.pairwise_append.2 ⟨ih', List.pairwise_singleton _ _, fun c hc c' hc' => ?_⟩
      obtain rfl := List.mem_singleton.1 hc'
      rw [hk c hc, List.idxOf_append_of_notMem (mt mem_callIds_lastSnapshots.2 hn)]
      exact Nat.lt_add_right _ (List.idxOf_lt_length_of_mem (mem_callIds_lastSnapshots.1 hc))

/-- Calls stand in a message as they come in its list of calls. -/
theorem Message.place_lt_place {m : Message} {c c' : String}
    (h : (m.executions.map (·.callId)).idxOf c < (m.executions.map (·.callId)).idxOf c') :
    m.place c < m.place c' := by
  rw [executions] at h
  rw [place, place]
  generalize m.segments = segments at h
  induction segments with
  | nil => exact absurd h (Nat.lt_irrefl 0)
  | cons s rest ih =>
    rw [List.findIdx_cons, List.findIdx_cons]
    cases s with
    | text id words => exact Nat.succ_lt_succ (ih h)
    | tool id e =>
      rw [List.filterMap_cons_some (show (Segment.tool id e).execution? = some e from rfl),
        List.map_cons, List.idxOf_cons, List.idxOf_cons] at h
      grind [Segment.execution?]

/-! ## Which calls can be decided -/

/-- Exactly these calls can be decided: those whose last segment, in the message in progress and
    else in the last one of the assistant, asks for approval and waits for a decision. Each of
    them is there once, with what that segment says, in the order of their first segments. -/
theorem approvable_lists_last_snapshots (current : Option Message) (finalized : List Message) :
    ((approvable current finalized).map (·.callId)).Nodup ∧
      (∀ e, e ∈ approvable current finalized ↔
        ∃ m, IsSource current finalized m ∧ m.HasLast e ∧ e.requiresApproval = true ∧
          (e.status = .pending ∨ e.status = .awaitingApproval)) ∧
      (approvable current finalized).Pairwise fun e e' =>
        ∃ m, IsSource current finalized m ∧ m.place e.callId < m.place e'.callId := by
  have happrovable (e : ToolExecution) : e.isApprovable = true ↔
      e.requiresApproval = true ∧ (e.status = .pending ∨ e.status = .awaitingApproval) := by
    rw [ToolExecution.isApprovable, Bool.and_eq_true]
    cases e.status <;> simp [ToolStatus.isAwaitingDecision]
  refine ⟨nodup_approvable current finalized, fun e => ?_, ?_⟩
  · simp only [isSource_iff, Message.hasLast_iff, ← happrovable, approvable]
    cases approvalSource current finalized with
    | none => simp
    | some m => simp [List.mem_filter]
  · simp only [isSource_iff, approvable]
    cases approvalSource current finalized with
    | none => exact .nil
    | some m =>
      have hp := List.pairwise_map.1 (pairwise_lastSnapshots m.executions)
      exact (hp.sublist List.filter_sublist).imp fun h => ⟨m, rfl, Message.place_lt_place h⟩

/-- A call stays in its place when there is a later snapshot of it, unless that decides it. -/
example :
    let e (callId : String) (status : ToolStatus) : ToolExecution :=
      { ToolExecution.bare callId status with requiresApproval := true }
    let executions := [e "c" .pending, e "d" .pending, e "b" .pending, e "c" .awaitingApproval,
      e "d" .executing]
    let m := { Message.beginAssistant "a" 0 with segments := executions.map .ofExecution }
    approvable (some m) [] = [e "c" .awaitingApproval, e "b" .pending] := by
  decide

end Dialogue
