import Dialogue.Proofs.Message.Hearing
import Dialogue.Proofs.Session.Writing

/-!
# News that comes twice

News of calls may be delivered twice in a row. The first time it may begin calls, so that the
second time finds another message, and a list of pending calls may say different things of one
call, so that the fields of the call go back and forth in between. Still the second time changes
nothing.

It begins no call, since all of them have begun or may not begin, and a call that hears the same
updates once more holds what it held (`ToolExecution.mergeAll_mergeAll`). The segments keep their
identifiers and texts (`Segment.frame`), which with the calls is all that there is to segments.

* `writeAll_twice`: for messages;
* `told_applyPending`, `told_applyTool`: for sessions, which do no more than tell the message
  once more;
* `news_twice_as_once`: both.
-/

namespace Dialogue

namespace Segment

/-- A segment but for what is known of its call. -/
def frame (s : Segment) : String × Option String :=
  (s.id, s.text?)

/-- Segments are told by their frames and their calls. -/
theorem eq_of_frames {segments segments' : List Segment}
    (hf : segments.map frame = segments'.map frame)
    (he : segments.filterMap execution? = segments'.filterMap execution?) :
    segments = segments' := by
  induction segments generalizing segments' with
  | nil => exact (List.map_eq_nil_iff.1 hf.symm).symm
  | cons s rest ih =>
    obtain ⟨s', rest', rfl, hs, hrest⟩ := List.map_eq_cons_iff.1 hf.symm
    cases s with
    | text id words =>
      cases s' with
      | text id' words' =>
        obtain ⟨hid, hw⟩ := Prod.mk.inj hs
        obtain rfl : id' = id := hid
        obtain rfl : words' = words := Option.some.inj hw
        rw [ih hrest.symm he]
      | tool id' e' => exact absurd (Prod.mk.inj hs).2.symm (Option.some_ne_none words)
    | tool id e =>
      cases s' with
      | text id' words' => exact absurd (Prod.mk.inj hs).2 (Option.some_ne_none words')
      | tool id' e' =>
        obtain rfl : id' = id := (Prod.mk.inj hs).1
        obtain ⟨rfl, hes⟩ := List.cons.inj he
        rw [ih hrest.symm hes]

theorem frames_mergeCall? {u : ToolUpdate} {segments segments' : List Segment}
    (h : mergeCall? u segments = some segments') : segments'.map frame = segments.map frame := by
  induction segments generalizing segments' with
  | nil => exact absurd h (Option.some_ne_none _).symm
  | cons s rest ih =>
    cases s with
    | text id words =>
      obtain ⟨rest', hr, rfl⟩ := Option.map_eq_some_iff.1 h
      exact congrArg (_ :: ·) (ih hr)
    | tool id e =>
      rw [mergeCall?] at h
      split at h
      · rw [← Option.some.inj h]
        rfl
      · obtain ⟨rest', hr, rfl⟩ := Option.map_eq_some_iff.1 h
        exact congrArg (_ :: ·) (ih hr)

end Segment

/-! ## Messages -/

/-- A call that may not begin does not. -/
theorem foldl_heard_of_not_begins {ns : List News} (h : ∀ n ∈ ns, n.begins = false) :
    ns.foldl heard [] = [] := by
  induction ns with
  | nil => rfl
  | cons n ns ih =>
    rw [List.forall_mem_cons] at h
    rw [List.foldl_cons, heard_nil, h.1]
    exact ih h.2

/-- A call that may begin does so with the first update, merged into nothing. -/
theorem foldl_heard_of_begins {ns : List News} {callId : String} (hn : ns ≠ [])
    (h : ∀ n ∈ ns, n.begins = true ∧ n.update.callId = callId) :
    ns.foldl heard [] = [(ToolExecution.bare callId .pending).mergeAll (ns.map (·.update))] := by
  cases ns with
  | nil => exact absurd rfl hn
  | cons n ns =>
    obtain ⟨hb, hc⟩ := h n List.mem_cons_self
    rw [List.foldl_cons, heard_nil, hb, if_pos rfl, foldl_heard_cons, News.begun,
      ToolExecution.ofUpdate_eq_merge, hc]
    rfl

/-- A call that has heard news hears nothing new from the same news, if all of it may begin the
    call or none. -/
theorem foldl_heard_twice (es : List ToolExecution) {ns : List News} {create : Bool}
    {callId : String} (h : ∀ n ∈ ns, n.begins = create ∧ n.update.callId = callId) :
    ns.foldl heard (ns.foldl heard es) = ns.foldl heard es := by
  cases es with
  | cons e es => rw [foldl_heard_cons, foldl_heard_cons, ToolExecution.mergeAll_mergeAll]
  | nil =>
    cases create with
    | false =>
      have hn := foldl_heard_of_not_begins fun n hn => (h n hn).1
      rw [hn, hn]
    | true =>
      by_cases hn : ns = []
      · rw [hn]
        rfl
      · rw [foldl_heard_of_begins hn h, foldl_heard_cons, ToolExecution.mergeAll_mergeAll]

namespace Message

variable {m : Message}

/-- News of calls is written to the segments. -/
theorem applyUpdate_eq (m : Message) (u : ToolUpdate) (create : Bool) :
    ∃ segments, (m.applyUpdate u create).2 = { m with segments } := by
  unfold applyUpdate
  split
  · exact ⟨_, rfl⟩
  · split
    · exact ⟨_, rfl⟩
    · exact ⟨_, rfl⟩

/-- Segments keep their frames if no call begins. -/
theorem frames_applyUpdate {u : ToolUpdate} {create : Bool}
    (h : create = true → u.callId ∈ m.callIds) :
    (m.applyUpdate u create).2.segments.map Segment.frame = m.segments.map Segment.frame := by
  unfold applyUpdate
  split
  · next hm => exact Segment.frames_mergeCall? hm
  · next hm =>
    split
    · next hcreate =>
      have hs := Segment.mergeCall?_isSome_iff.2 (h hcreate)
      rw [hm] at hs
      exact absurd hs Bool.noConfusion
    · rfl

/-- Calls that were to begin have begun. -/
theorem mem_callIds_writeAll (m : Message) (ids : Ids) {ws : List Writing} {callId : String}
    (h : callId ∈ ws.flatMap Writing.created) : callId ∈ (m.writeAll ids ws).callIds := by
  rw [callIds_writeAll]
  exact mem_append_newCalls h

/-- So none begins when the same is written once more. -/
theorem begunBy_writeAll (m : Message) (ids : Ids) (ws : List Writing) :
    (m.writeAll ids ws).begunBy ws = [] := by
  have hn : (ws.flatMap Writing.created).filter (· ∉ (m.writeAll ids ws).callIds) = [] :=
    List.filter_eq_nil_iff.2 fun c hc => by
      rw [decide_eq_true_iff, not_not]
      exact m.mem_callIds_writeAll ids hc
  rw [begunBy, newCalls, hn]
  rfl

section Twice

variable {ids ids' : Ids} {us : List ToolUpdate} {create : Bool}

theorem frames_writeAll (h : create = true → ∀ u ∈ us, u.callId ∈ m.callIds) :
    (m.writeAll ids (us.map (.update · create))).segments.map Segment.frame =
      m.segments.map Segment.frame := by
  induction us generalizing m with
  | nil => rfl
  | cons u us ih =>
    have hu := frames_applyUpdate fun hc => h hc u List.mem_cons_self
    refine (ih fun hc u' hu' => ?_).trans hu
    exact (m.extends_write ids (.update u create)).callIds.subset
      (h hc u' (List.mem_cons_of_mem u hu'))

theorem writeAll_eq (m : Message) (ids : Ids) (us : List ToolUpdate) (create : Bool) :
    ∃ segments, m.writeAll ids (us.map (.update · create)) = { m with segments } := by
  induction us generalizing m with
  | nil => exact ⟨_, rfl⟩
  | cons u us ih =>
    obtain ⟨segments, hu⟩ := m.applyUpdate_eq u create
    obtain ⟨segments', hus⟩ := ih (m.write ids (.update u create))
    exact ⟨segments', hus.trans (by rw [write, hu])⟩

theorem mem_newsOf {callId : String} {n : News}
    (h : n ∈ newsOf callId (us.map (.update · create))) :
    n.begins = create ∧ n.update.callId = callId := by
  rw [newsOf, List.flatMap_map] at h
  obtain ⟨hn, hc⟩ := List.mem_filter.1 h
  obtain ⟨u, -, hn⟩ := List.mem_flatMap.1 hn
  rw [List.mem_singleton.1 hn] at hc ⊢
  exact ⟨rfl, of_decide_eq_true hc⟩

/-- The same news once more changes nothing. -/
theorem writeAll_twice (m : Message) (ids ids' : Ids) (us : List ToolUpdate) (create : Bool) :
    (m.writeAll ids (us.map (.update · create))).writeAll ids' (us.map (.update · create)) =
      m.writeAll ids (us.map (.update · create)) := by
  let ws : List Writing := us.map (.update · create)
  have hsnapshots (c : String) : ((m.writeAll ids ws).writeAll ids' ws).snapshots c =
      (m.writeAll ids ws).snapshots c := by
    rw [snapshots_writeAll _ ids', snapshots_writeAll m]
    exact foldl_heard_twice _ fun n => mem_newsOf
  have hcalls : ((m.writeAll ids ws).writeAll ids' ws).callIds = (m.writeAll ids ws).callIds := by
    rw [callIds_writeAll _ ids', begunBy_writeAll, List.append_nil]
  have hknown (hc : create = true) (u : ToolUpdate) (hu : u ∈ us) :
      u.callId ∈ (m.writeAll ids ws).callIds := by
    refine m.mem_callIds_writeAll ids (List.mem_flatMap.2 ⟨_, List.mem_map_of_mem hu, ?_⟩)
    rw [Writing.created, if_pos hc]
    exact List.mem_singleton_self _
  obtain ⟨segments, h⟩ := (m.writeAll ids ws).writeAll_eq ids' us create
  obtain rfl : segments = (m.writeAll ids ws).segments :=
    (congrArg Message.segments h).symm.trans
      (Segment.eq_of_frames (frames_writeAll hknown) (eq_of_callIds hcalls hsnapshots))
  exact h

/-- Pending calls are news that may begin them, one after the other. -/
theorem applyPending_eq_writeAll (m : Message) (ids : Ids) (us : List ToolUpdate) :
    (m.applyPending us).2 = m.writeAll ids (us.map (.update · true)) := by
  unfold applyPending
  -- The induction is on the updates, whatever changed before.
  generalize false = changed
  induction us generalizing m changed with
  | nil => rfl
  | cons u us ih =>
    rw [List.foldl_cons, ih]
    rfl

theorem applyPending_twice (m : Message) (us : List ToolUpdate) :
    ((m.applyPending us).2.applyPending us).2 = (m.applyPending us).2 := by
  let ids : Ids := { name := fun _ => "" }
  rw [applyPending_eq_writeAll m ids, applyPending_eq_writeAll _ ids]
  exact m.writeAll_twice ids ids us true

theorem applyUpdate_twice (m : Message) (u : ToolUpdate) (create : Bool) :
    ((m.applyUpdate u create).2.applyUpdate u create).2 = (m.applyUpdate u create).2 :=
  m.writeAll_twice { name := fun _ => "" } { name := fun _ => "" } [u] create

end Twice

end Message

/-! ## Sessions -/

namespace Transcript

theorem currentOf?_ensureCurrent (t : Transcript) (generation : Nat) (ids : Ids) (now : Int) :
    (t.ensureCurrent generation ids now).2.2.currentOf? generation =
      some (t.ensureCurrent generation ids now).1 := by
  rw [(t.belongsTo_ensureCurrent generation ids now).currentOf?, ensureCurrent_eq]
  split
  · next p hp => exact congrArg (Option.map InProgress.message) hp
  · rfl

theorem currentOf?_setCurrent {t : Transcript} {generation : Nat} {m : Message}
    (h : t.currentOf? generation = some m) (m' : Message) :
    (t.setCurrent m').currentOf? generation = some m' := by
  unfold currentOf? at h
  split at h
  · next p hp =>
    split at h
    · next hg =>
      rw [setCurrent_of_some hp]
      exact if_pos hg
    · exact absurd h (Option.some_ne_none m).symm
  · exact absurd h (Option.some_ne_none m).symm

end Transcript

namespace Session

open Effect

variable {s : Session} {m : Message}

theorem ensureCurrent_of_currentOf? (h : s.transcript.currentOf? s.generation = some m) :
    s.ensureCurrent = (m, s) := by
  obtain ⟨p, hp, rfl⟩ := Transcript.inProgress_of_currentOf? h
  rw [ensureCurrent, Transcript.ensureCurrent_eq, Transcript.clearedFor, if_pos (by rw [h]; rfl),
    hp]

theorem currentOf?_ensureCurrent (s : Session) :
    s.ensureCurrent.2.transcript.currentOf? s.ensureCurrent.2.generation =
      some s.ensureCurrent.1 :=
  Transcript.currentOf?_ensureCurrent _ _ _ _

theorem currentOf?_updateCurrent (h : s.transcript.currentOf? s.generation = some m)
    (m' : Message) :
    (s.updateCurrent m').transcript.currentOf? (s.updateCurrent m').generation = some m' := by
  obtain ⟨p, hp, -⟩ := Transcript.inProgress_of_currentOf? h
  rw [updateCurrent_eq hp]
  exact Transcript.currentOf?_setCurrent h m'

/-- The message in progress in its own place is only told. -/
theorem updateCurrent_self (h : s.transcript.currentOf? s.generation = some m) :
    s.updateCurrent m = { s with outbox := s.outbox ++ tellings [.messageUpdated m] } := by
  obtain ⟨p, hp, rfl⟩ := Transcript.inProgress_of_currentOf? h
  rw [updateCurrent_eq hp, Transcript.setCurrent_of_some hp, ← hp]

theorem applyPending_of_ne_nil {us : List ToolUpdate} (h : us ≠ []) (s : Session) :
    s.applyPending us =
      s.ensureCurrent.2.updateCurrent (s.ensureCurrent.1.applyPending us).2 := by
  rw [applyPending, if_neg (mt List.isEmpty_iff.1 h)]
  exact if_pos (s.ensureCurrent.1.changed_applyPending h).1

theorem applyTool_of_creates {kind : ToolEvent} (h : kind.createsSegment = true) (s : Session)
    (u : ToolUpdate) :
    s.applyTool kind u =
      s.ensureCurrent.2.updateCurrent (s.ensureCurrent.1.applyUpdate u true).2 := by
  rw [applyTool, if_pos h]
  exact if_pos (s.ensureCurrent.1.changed_applyUpdate u)

theorem applyTool_of_none {kind : ToolEvent} (h : ¬kind.createsSegment = true)
    (hn : s.transcript.currentOf? s.generation = none) (u : ToolUpdate) :
    s.applyTool kind u = s := by
  rw [applyTool, if_neg h, hn]

theorem applyTool_of_some {kind : ToolEvent} (h : ¬kind.createsSegment = true)
    (hm : s.transcript.currentOf? s.generation = some m) (u : ToolUpdate) :
    s.applyTool kind u =
      if (m.applyUpdate u false).1.changed then s.updateCurrent (m.applyUpdate u false).2
      else s := by
  rw [applyTool, if_neg h, hm]

/-- The session has done no more than to tell something. -/
def Told (s s' : Session) : Prop :=
  ∃ us, s' = { s with outbox := s.outbox ++ tellings us }

theorem told_refl (s : Session) : s.Told s :=
  ⟨[], by rw [tellings, List.map_nil, List.append_nil]⟩

theorem told_applyPending (s : Session) (us : List ToolUpdate) :
    (s.applyPending us).Told ((s.applyPending us).applyPending us) := by
  by_cases hu : us = []
  · subst hu
    exact told_refl s
  · have hc := currentOf?_updateCurrent s.currentOf?_ensureCurrent
      (s.ensureCurrent.1.applyPending us).2
    rw [applyPending_of_ne_nil hu s, applyPending_of_ne_nil hu, ensureCurrent_of_currentOf? hc,
      Message.applyPending_twice, updateCurrent_self hc]
    exact ⟨_, rfl⟩

theorem told_applyTool (s : Session) (kind : ToolEvent) (u : ToolUpdate) :
    (s.applyTool kind u).Told ((s.applyTool kind u).applyTool kind u) := by
  by_cases hk : kind.createsSegment = true
  · have hc := currentOf?_updateCurrent s.currentOf?_ensureCurrent
      (s.ensureCurrent.1.applyUpdate u true).2
    rw [applyTool_of_creates hk s, applyTool_of_creates hk, ensureCurrent_of_currentOf? hc,
      Message.applyUpdate_twice, updateCurrent_self hc]
    exact ⟨_, rfl⟩
  · cases hm : s.transcript.currentOf? s.generation with
    | none =>
      rw [applyTool_of_none hk hm, applyTool_of_none hk hm]
      exact told_refl s
    | some m =>
      rw [applyTool_of_some hk hm]
      split
      · -- The message has changed, and if the news changes it again, then to what it is.
        have hc := currentOf?_updateCurrent hm (m.applyUpdate u false).2
        rw [applyTool_of_some hk hc, Message.applyUpdate_twice]
        split
        · rw [updateCurrent_self hc]
          exact ⟨_, rfl⟩
        · exact told_refl _
      · next hn =>
        rw [applyTool_of_some hk hm, if_neg hn]
        exact told_refl s

/-- An event that is not terminal leaves its stream the active one. -/
theorem isLive_handle (s : Session) (generation : Nat) {e : TurnEvent} (he : e.isTerminal = false) :
    (s.handle ⟨generation, e⟩).isLive generation = s.isLive generation := by
  rw [handle]
  split
  · have hc := s.continues_apply he
    obtain ⟨runId, ht⟩ := hc.turn
    rw [isLive, hc.generation, ht, Option.isSome_map]
    rfl
  · rfl

/-- What is told twice if an event that is not terminal is applied twice, is told twice if it is
    delivered twice. -/
theorem told_handle (s : Session) (generation : Nat) (e : TurnEvent) (he : e.isTerminal = false)
    (h : (s.apply e).Told ((s.apply e).apply e)) :
    (s.handle ⟨generation, e⟩).Told ((s.handle ⟨generation, e⟩).handle ⟨generation, e⟩) := by
  have hl := s.isLive_handle generation he
  by_cases hs : s.isLive generation = true
  · have h₁ : s.handle ⟨generation, e⟩ = s.apply e := if_pos hs
    rw [h₁] at hl ⊢
    rw [handle, if_pos (hl.trans hs)]
    exact h
  · have h₁ : s.handle ⟨generation, e⟩ = s := if_neg hs
    rw [h₁, h₁]
    exact told_refl s

theorem Told.transcript {s' : Session} (h : s.Told s') : s'.transcript = s.transcript := by
  obtain ⟨us, rfl⟩ := h
  rfl

/-- News of calls that comes twice in a row is as if it came once: for every message and every
    list of pending calls, which may say different things of one call, for every message and
    every news of a single call, whether it may begin the call or not, and for every session and
    every such event of a stream, which counts the second time if it did the first time. -/
theorem news_twice_as_once :
    (∀ (m : Message) (us : List ToolUpdate),
      ((m.applyPending us).2.applyPending us).2 = (m.applyPending us).2) ∧
    (∀ (m : Message) (u : ToolUpdate) (create : Bool),
      ((m.applyUpdate u create).2.applyUpdate u create).2 = (m.applyUpdate u create).2) ∧
    ∀ (s : Session) (generation : Nat),
      (∀ us,
        let e : Envelope := ⟨generation, .toolsPending us⟩
        ((s.handle e).handle e).transcript = (s.handle e).transcript ∧
          (s.handle e).isLive generation = s.isLive generation) ∧
      ∀ kind u,
        let e : Envelope := ⟨generation, .tool kind u⟩
        ((s.handle e).handle e).transcript = (s.handle e).transcript ∧
          (s.handle e).isLive generation = s.isLive generation := by
  refine ⟨Message.applyPending_twice, Message.applyUpdate_twice, fun s generation =>
    ⟨fun us => ⟨?_, s.isLive_handle generation rfl⟩,
      fun kind u => ⟨?_, s.isLive_handle generation rfl⟩⟩⟩
  · exact (s.told_handle generation (.toolsPending us) rfl (s.told_applyPending us)).transcript
  · exact (s.told_handle generation (.tool kind u) rfl (s.told_applyTool kind u)).transcript

end Session

end Dialogue
