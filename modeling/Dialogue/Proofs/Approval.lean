import Dialogue.Approval
import Mathlib.Data.List.Induction
import Mathlib.Data.List.Nodup

/-!
# The calls of a bulk decision

A call that came up more than once can be decided once: no two of the calls that can be
decided have the same identifier (`nodup_approvable`), and what is kept of each call is its last
snapshot (`filter_lastSnapshots`).

A bulk decision works through its calls in order. `Coordinator.midway` is how it stands when
some calls are done and the next one is under way:

* `Coordinator.complete_midway`: while calls are waiting, each that is done is followed by
  the next;
* `Coordinator.complete_last`: after the last one nothing is left of it;
* `Coordinator.Tallied.advances_iff`: the progress alone says whether a call is waiting.
-/

namespace Dialogue

/-! ## The calls that can be decided -/

/-- A snapshot takes the place of an earlier one of its call, or comes last. -/
theorem callIds_noteSnapshot (known : List ToolExecution) (e : ToolExecution) :
    (noteSnapshot known e).map (·.callId) =
      if e.callId ∈ known.map (·.callId) then known.map (·.callId)
      else known.map (·.callId) ++ [e.callId] := by
  have hk : known.any (·.callId == e.callId) = true ↔ e.callId ∈ known.map (·.callId) := by
    simp only [List.any_eq_true, beq_iff_eq, List.mem_map]
  rw [noteSnapshot]
  simp only [hk]
  split
  · rw [List.map_map]
    refine List.map_congr_left fun k _ => ?_
    by_cases h : k.callId = e.callId
    · simp only [Function.comp_apply, h, beq_self_eq_true, if_true]
    · simp only [Function.comp_apply, beq_iff_eq, h, if_false]
  · rw [List.map_append]
    rfl

/-- No call has two snapshots that are its last. -/
theorem nodup_lastSnapshots (executions : List ToolExecution) :
    ((lastSnapshots executions).map (·.callId)).Nodup := by
  -- The induction is on what is still to be noted, with any snapshots known before.
  suffices h : ∀ known : List ToolExecution, (known.map (·.callId)).Nodup →
      ((executions.foldl noteSnapshot known).map (·.callId)).Nodup from h [] List.nodup_nil
  induction executions with
  | nil => exact fun _ h => h
  | cons e executions ih =>
    intro known h
    refine ih _ ?_
    rw [callIds_noteSnapshot]
    split
    · exact h
    · next hn => exact List.nodup_append.2 ⟨h, List.nodup_singleton _, fun a ha b hb hab =>
        hn (List.mem_singleton.1 hb ▸ hab ▸ ha)⟩

/-- Among the snapshots of one call, one takes the place of another of its own call, and of no
    other. -/
theorem filter_noteSnapshot (known : List ToolExecution) (e : ToolExecution) (callId : String) :
    (noteSnapshot known e).filter (·.callId = callId) =
      if e.callId = callId then
        if known.filter (·.callId = callId) = [] then [e]
        else (known.filter (·.callId = callId)).map fun _ => e
      else known.filter (·.callId = callId) := by
  have hany : known.any (·.callId == e.callId) = true ↔
      known.filter (·.callId = e.callId) ≠ [] := by
    simp [List.any_eq_true, List.filter_eq_nil_iff]
  have hcall (k : ToolExecution) :
      (if k.callId == e.callId then e else k).callId = k.callId := by
    by_cases hk : k.callId = e.callId <;> simp [hk]
  have hmap : (known.map fun k => if k.callId == e.callId then e else k).filter
      (·.callId = callId) =
        (known.filter (·.callId = callId)).map fun k => if k.callId == e.callId then e else k := by
    rw [List.filter_map]
    refine congrArg _ (List.filter_congr fun k _ => ?_)
    rw [Function.comp_apply, hcall]
  rw [noteSnapshot]
  by_cases hc : e.callId = callId
  · subst hc
    rw [if_pos rfl]
    split
    · next ha =>
      rw [if_neg (hany.1 ha), hmap]
      refine List.map_congr_left fun k hk => if_pos ?_
      exact beq_iff_eq.2 (of_decide_eq_true (List.mem_filter.1 hk).2)
    · next ha =>
      have hn := not_not.1 (mt hany.2 ha)
      rw [if_pos hn, List.filter_append, hn]
      simp
  · rw [if_neg hc]
    split
    · rw [hmap]
      refine (List.map_congr_left fun k hk => if_neg ?_).trans (List.map_id _)
      rw [beq_iff_eq, of_decide_eq_true (List.mem_filter.1 hk).2]
      exact Ne.symm hc
    · rw [List.filter_append]
      simp [hc]

/-- Of each call the last snapshot is kept. -/
theorem filter_lastSnapshots (executions : List ToolExecution) (callId : String) :
    (lastSnapshots executions).filter (·.callId = callId) =
      (executions.filter (·.callId = callId)).getLast?.toList := by
  induction executions using List.reverseRecOn with
  | nil => rfl
  | append_singleton executions e ih =>
    have hl : lastSnapshots (executions ++ [e]) = noteSnapshot (lastSnapshots executions) e :=
      List.foldl_concat ..
    rw [hl, filter_noteSnapshot, ih, List.filter_append]
    by_cases hc : e.callId = callId
    · have he : [e].filter (·.callId = callId) = [e] := by simp [hc]
      rw [if_pos hc, he, List.getLast?_concat]
      cases (executions.filter (·.callId = callId)).getLast? <;> rfl
    · have he : [e].filter (·.callId = callId) = [] := by simp [hc]
      rw [if_neg hc, he, List.append_nil]

/-- The calls that can be decided are different ones. -/
theorem nodup_approvable (current : Option Message) (finalized : List Message) :
    ((approvable current finalized).map (·.callId)).Nodup := by
  rw [approvable]
  split
  · exact List.nodup_nil
  · exact (nodup_lastSnapshots _).sublist (List.filter_sublist.map _)

/-! ## Working through the calls -/

namespace Coordinator

variable {calls : List String} {k : Nat}

/-- A bulk decision with some calls done and the next one under way. -/
def midway (calls : List String) (decision : Decision) (k : Nat) : Coordinator where
  waiting := calls.drop (k + 1)
  progress := some ⟨k, calls.length, decision⟩

theorem complete_of_none {c : Coordinator} (h : c.progress = none) : c.complete = (.idle, c) := by
  rw [complete, h]

/-- Any call but the last is followed by the next one. -/
theorem complete_midway (decision : Decision) (h : k + 1 < calls.length) :
    (midway calls decision k).complete =
      (.next calls[k + 1] decision ⟨k + 1, calls.length, decision⟩,
        midway calls decision (k + 1)) := by
  rw [midway, complete, List.drop_eq_getElem_cons h]
  rfl

/-- After the last call no bulk decision runs. -/
theorem complete_last (decision : Decision) (h : k + 1 = calls.length) :
    (midway calls decision k).complete =
      (.finished ⟨calls.length, calls.length, decision⟩, ⟨[], none⟩) := by
  rw [midway, complete, h, List.drop_length]
  exact congrArg (fun n => (BulkStep.finished ⟨n, calls.length, decision⟩, _)) h

/-! ## The progress -/

variable {c : Coordinator}

/-- The calls that are done, the one under way and those that wait make up the total. -/
def Tallied (c : Coordinator) : Prop :=
  ∀ p ∈ c.progress, p.completed + 1 + c.waiting.length = p.total

theorem tallied_of_none (h : c.progress = none) : c.Tallied := by
  intro p hp
  rw [h] at hp
  exact absurd hp (Option.not_mem_none p)

theorem tallied_begun (rest : List String) (decision : Decision) :
    Tallied ⟨rest, some ⟨0, rest.length + 1, decision⟩⟩ := by
  rintro p ⟨⟩
  exact Nat.add_comm 1 rest.length

theorem Tallied.complete (h : c.Tallied) : c.complete.2.Tallied := by
  obtain ⟨waiting, progress⟩ := c
  cases progress with
  | none => exact tallied_of_none rfl
  | some p =>
    cases waiting with
    | nil => exact tallied_of_none rfl
    | cons next rest =>
      have ht : p.completed + 1 + (rest.length + 1) = p.total := h p rfl
      rintro p' ⟨⟩
      exact (Nat.add_right_comm _ _ _).trans ht

/-- What goes on has a call that waits, which is decided like the others. -/
theorem of_complete_next {callId : String} {decision : Decision} {progress : Progress}
    (h : c.complete.1 = .next callId decision progress) :
    ∃ waiting p, c = ⟨callId :: waiting, some p⟩ ∧ decision = p.decision := by
  obtain ⟨waiting, progress⟩ := c
  cases progress with
  | none => exact nomatch h
  | some p =>
    cases waiting with
    | nil => exact nomatch h
    | cons next rest =>
      obtain ⟨rfl, rfl, rfl⟩ := BulkStep.next.inj h
      exact ⟨rest, p, rfl, rfl⟩

/-- The next call follows exactly if the one under way is not the last. -/
theorem Tallied.advances_iff (h : c.Tallied) :
    c.progress.any (fun p => p.completed + 1 < p.total) = true ↔
      ∃ callId decision progress, c.complete.1 = .next callId decision progress := by
  obtain ⟨waiting, progress⟩ := c
  cases progress with
  | none => exact ⟨nofun, nofun⟩
  | some p =>
    have ht : p.completed + 1 + waiting.length = p.total := h p rfl
    rw [Option.any_some, decide_eq_true_iff, ← ht]
    cases waiting with
    | nil => exact ⟨fun hl => absurd hl (Nat.lt_irrefl _), nofun⟩
    | cons next rest =>
      exact ⟨fun _ => ⟨_, _, _, rfl⟩, fun _ => Nat.lt_add_of_pos_right (Nat.succ_pos _)⟩

end Coordinator

end Dialogue
