import Dialogue.Conversation
import Dialogue.Proofs.Approval
import Dialogue.Proofs.Message.Hearing
import Dialogue.Proofs.Session.Course

/-!
# Calls that can be decided, after news of them

The calls that can be decided are found in the message by their last segments, while news of a
call goes to its first segment. The two are about the same segment of a call that the message
has once. Of every call that began in a session this is so (`stable_distinct`), but a stored
message may have a call twice, and then what can be decided does not follow the news of it.

* `filter_approvable`: a call can be decided or not as its last segment says;
* `listing_follows_news`: after news of a call it can be decided just as the news says, if the
  message has it once at most, and just as before the news, if it has it more than once;
* `listing_misses_news`: a stored message that has a call twice.
-/

namespace Dialogue

namespace Message

variable {m : Message}

/-- How often a message has a call. -/
theorem count_callIds (m : Message) (callId : String) :
    m.callIds.count callId = (m.snapshots callId).length := by
  rw [callIds, List.count, List.countP_map, List.countP_eq_length_filter]
  rfl

/-- No call begins twice in a message. -/
theorem stable_distinct (now : Int) : Stable (fun _ => True) now (·.callIds.Nodup) where
  input _ _ := List.nodup_nil
  begun _ := List.nodup_nil
  marked _ h _ _ := h
  written {m w} _ _ h ids := by
    rw [callIds_write_append]
    refine List.nodup_append.2 ⟨h, nodup_newCalls _ _, fun a ha b hb hab => ?_⟩
    exact not_mem_of_mem_newCalls hb (hab ▸ ha)

end Message

/-- What can be decided of one call is told by its last segment. -/
theorem filter_approvable {current : Option Message} {finalized : List Message} {m : Message}
    (hs : approvalSource current finalized = some m) (callId : String) :
    (approvable current finalized).filter (·.callId = callId) =
      (m.snapshots callId).getLast?.toList.filter ToolExecution.isApprovable := by
  rw [approvable, hs, Message.snapshots, ← filter_lastSnapshots, List.filter_filter,
    List.filter_filter]
  exact List.filter_congr fun e _ => Bool.and_comm _ _

/-- A call that just heard news that decides it. -/
theorem isApprovable_merge {u : ToolUpdate} {status : ToolStatus} (h : u.status = some status)
    (e : ToolExecution) : (e.merge u).isApprovable =
      (u.requiresApproval.getD e.requiresApproval && status.isAwaitingDecision) := by
  rw [ToolExecution.isApprovable, ToolExecution.merge, h]
  rfl

namespace Message

variable {m : Message} {u : ToolUpdate} {create : Bool}

/-- News of a call changes a message just if it may begin the call or the message has it. -/
theorem changed_applyUpdate_iff :
    (m.applyUpdate u create).1.changed = true ↔ create = true ∨ u.callId ∈ m.callIds := by
  have hm : (Segment.mergeCall? u m.segments).isSome = true ↔ u.callId ∈ m.callIds :=
    Segment.mergeCall?_isSome_iff
  unfold applyUpdate
  split
  · next h => exact ⟨fun _ => .inr (hm.1 (by rw [h]; rfl)), fun _ => rfl⟩
  · next h =>
    have hn : u.callId ∉ m.callIds := fun hin => by
      rw [← hm, h] at hin
      exact Bool.noConfusion hin
    cases create with
    | true => exact ⟨fun _ => .inl rfl, fun _ => rfl⟩
    | false => exact ⟨nofun, fun h => absurd (h.resolve_left nofun) hn⟩

/-- A call that a message has once at most is the same one for the news and afterwards. -/
theorem snapshots_applyUpdate_of_count (hc : (m.applyUpdate u create).1.changed = true)
    (hn : m.callIds.count u.callId ≤ 1) :
    (m.applyUpdate u create).2.snapshots u.callId =
      [((m.call? u.callId).getD (.bare u.callId .pending)).merge u] := by
  rw [count_callIds] at hn
  rw [snapshots_applyUpdate_self, call?_eq]
  cases hs : m.snapshots u.callId with
  | nil =>
    have hcreate : create = true :=
      (changed_applyUpdate_iff.1 hc).resolve_right (snapshots_eq_nil_iff.1 hs)
    rw [heard_nil, hcreate, if_pos rfl, News.begun, ToolExecution.ofUpdate_eq_merge]
    rfl
  | cons e es =>
    rw [hs, List.length_cons, Nat.succ_le_succ_iff, Nat.le_zero] at hn
    rw [List.eq_nil_of_length_eq_zero hn]
    rfl

/-- The last segment of a call that a message has more than once does not hear news of it. -/
theorem getLast?_snapshots_applyUpdate (hn : 1 < m.callIds.count u.callId) :
    ((m.applyUpdate u create).2.snapshots u.callId).getLast? =
      (m.snapshots u.callId).getLast? := by
  rw [count_callIds] at hn
  rw [snapshots_applyUpdate_self]
  match hs : m.snapshots u.callId with
  | [] | [_] =>
    rw [hs] at hn
    simp at hn
  | e :: e' :: es => rw [heard, List.getLast?_cons_cons, List.getLast?_cons_cons]

end Message

/-- What can be decided follows the news of a call: after news that changes the message of the
    calls that can be decided, and a message that has the call once at most, a call can be
    decided no more if the news says that it has a status in which it cannot be, and can be
    decided if the news says so, in all that was known of it with the news merged. Every message
    of a session has every call once at most, unless it comes from a stored one that does not.
    Of a call that the message has more than once, what can be decided is as it was before the
    news, whatever the news says. -/
theorem listing_follows_news (m : Message) (u : ToolUpdate) (create : Bool)
    (current : Option Message) (finalized : List Message)
    (hc : (m.applyUpdate u create).1.changed = true)
    (hs : approvalSource current finalized = some (m.applyUpdate u create).2) :
    (m.callIds.count u.callId ≤ 1 →
      (∀ status ∈ u.status, status.isAwaitingDecision = false →
        u.callId ∉ (approvable current finalized).map (·.callId)) ∧
      (∀ status ∈ u.status, status.isAwaitingDecision = true → u.requiresApproval = some true →
        (approvable current finalized).filter (·.callId = u.callId) =
          [((m.call? u.callId).getD (.bare u.callId .pending)).merge u])) ∧
    (∀ (conversationId : String) (interval now : Nat) (ids : Ids) (inputs : List Input),
      (∀ messages, .command (.hydrate messages) ∈ inputs → ∀ m ∈ messages, m.callIds.Nodup) →
      m ∈ ((Session.start conversationId interval now ids).run inputs).transcript.messages →
      m.callIds.count u.callId ≤ 1) ∧
    (1 < m.callIds.count u.callId →
      (approvable current finalized).filter (·.callId = u.callId) =
        (approvable (some m) []).filter (·.callId = u.callId)) := by
  have hlisted := filter_approvable hs u.callId
  refine ⟨fun hn => ?_, fun conversationId interval now ids inputs hh hm => ?_, fun hn => ?_⟩
  · rw [Message.snapshots_applyUpdate_of_count hc hn] at hlisted
    let e := (m.call? u.callId).getD (.bare u.callId .pending)
    have he {status : ToolStatus} (hu : u.status = some status) :
        (approvable current finalized).filter (·.callId = u.callId) =
          if u.requiresApproval.getD e.requiresApproval && status.isAwaitingDecision
          then [e.merge u] else [] := by
      rw [hlisted, List.getLast?_singleton, Option.toList_some, List.filter_singleton,
        isApprovable_merge hu]
      cases u.requiresApproval.getD e.requiresApproval && status.isAwaitingDecision <;> rfl
    refine ⟨fun status hu hd hin => ?_, fun status hu ha hr => ?_⟩
    · have hl := he hu
      rw [hd, Bool.and_false] at hl
      obtain ⟨k, hk, hkc⟩ := List.mem_map.1 hin
      exact List.filter_eq_nil_iff.1 hl k hk (decide_eq_true hkc)
    · rw [he hu, hr, ha]
      rfl
  · refine List.nodup_iff_count_le_one.1 ?_ u.callId
    exact Session.forall_messages_run (Session.coherent_start conversationId interval now ids)
      (Transcript.lasting_of_none rfl) (fun now _ => Message.stable_distinct now)
      (fun _ _ _ _ => trivial) hh (List.forall_mem_nil _) m hm
  · rw [Message.getLast?_snapshots_applyUpdate hn] at hlisted
    exact hlisted.trans (filter_approvable rfl u.callId).symm

/-- A call that begins in a message and waits for a decision, and then is approved. -/
theorem listing_follows_news_approved :
    let m := Message.beginAssistant "a" 0
    let waiting : ToolUpdate :=
      { callId := "c", status := some .awaitingApproval, requiresApproval := some true }
    let m₁ := (m.applyUpdate waiting true).2
    let m₂ := (m₁.applyUpdate (.withStatus "c" .approved) false).2
    (approvable (some m₁) []).filter (·.callId = "c") =
        [(ToolExecution.bare "c" .pending).merge waiting] ∧
      "c" ∉ (approvable (some m₂) []).map (·.callId) := by
  intro m waiting m₁ m₂
  have h₁ := listing_follows_news m waiting true (some m₁) [] (by decide) rfl
  have h₂ := listing_follows_news m₁ (.withStatus "c" .approved) false (some m₂) [] (by decide) rfl
  exact ⟨(h₁.1 (by decide)).2 .awaitingApproval rfl rfl rfl, (h₂.1 (by decide)).1 .approved rfl rfl⟩

/-- A stored message may have a call twice. When the call is approved, the news is merged into
    the first segment, and it can be decided all the same. -/
theorem listing_misses_news :
    let call : Json.Value := .ofMembers
      [("kind", .string "tool"), ("id", .string "c"), ("execution", .ofMembers
        [("call_id", .string "c"), ("status", .string "awaiting_approval"),
          ("requires_approval", .bool true)])]
    let stored : Conversation := { id := some "c", messages := [
      { id := some "a", role := some "assistant", olderRole := none, content := .string "",
        timestamp := some 0, segments := [call, call], usage := none }] }
    let messages := (stored.toMessages ⟨toString, 0⟩ 0).1
    let s := (Session.start "c" 100 0 ⟨toString, 0⟩).run
      [.command (.hydrate messages), .command (.decideSingle "c" true none)]
    let u := ToolUpdate.withStatus "c" .approved
    let s' := s.handle ⟨s.generation, .tool .approved u⟩
    s.transcript.current?.map (fun m => (m.applyUpdate u false).1) = some .merged ∧
      s'.approvable.map (·.callId) = ["c"] := by
  decide

end Dialogue
