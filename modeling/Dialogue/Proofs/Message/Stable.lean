import Dialogue.Proofs.Message.Outline

/-!
# What messages keep

Whatever is written to a message goes to segments that it has, or begins new ones. A property of
segments is *stable* (`Segment.Stable`) if those that begin have it and news of calls keeps it, so
that it is one of all segments of the message. In the same way a property of messages is stable
(`Message.Stable`) if those that begin have it, and nothing that is done to a message takes it
away.

One such property is that the segment of a call is found by the call (`Segment.Named`). And a
call that a message has already does not begin again, so that its calls are those that were to
begin, each where it came first.

* `forall_segments_write`: a stable property of all segments is kept;
* `stable_identified`: the segments of calls are named, and a message of the user is nothing but
  text;
* `callIds_write_append`, `callIds_write`: which calls a message has after something was written.
-/

namespace Dialogue

namespace Segment

/-- The segment of a call has the identifier of the call. -/
def Named (s : Segment) : Prop :=
  ∀ e ∈ s.execution?, s.id = e.callId

/-- A property that segments have from their beginning, and that news of their calls keeps. -/
structure Stable (U : ToolUpdate → Prop) (Q : Segment → Prop) : Prop where
  text : ∀ id words, Q (.text id words)
  begun : ∀ {u : ToolUpdate}, U u → ∀ status, Q (.ofExecution (.ofUpdate u status))
  merged : ∀ {id : String} {e : ToolExecution} {u : ToolUpdate}, U u → Q (.tool id e) →
    Q (.tool id (e.merge u))

theorem stable_named : Stable (fun _ => True) Named where
  text _ _ _ he := absurd he (Option.not_mem_none _)
  begun _ _ := by
    rintro e ⟨⟩
    rfl
  merged := by
    rintro id e u - h e' ⟨⟩
    exact h e rfl

variable {U : ToolUpdate → Prop} {Q : Segment → Prop} {segments segments' : List Segment}

theorem forall_extendLast? (hs : Stable U Q) (hq : ∀ s ∈ segments, Q s) {text : String}
    (h : extendLast? text segments = some segments') : ∀ s ∈ segments', Q s := by
  induction segments using extendLast?.induct generalizing segments' with
  | case1 | case3 => exact absurd h (Option.some_ne_none _).symm
  | case2 id last =>
    rw [← Option.some.inj h]
    exact List.forall_mem_singleton.2 (hs.text id _)
  | case4 s s' rest ih =>
    rw [extendLast?] at h
    obtain ⟨rest', hr, rfl⟩ := Option.map_eq_some_iff.1 h
    rw [List.forall_mem_cons] at hq
    exact List.forall_mem_cons.2 ⟨hq.1, ih hq.2 hr⟩

theorem forall_mergeCall? (hs : Stable U Q) (hq : ∀ s ∈ segments, Q s) {u : ToolUpdate}
    (hu : U u) (h : mergeCall? u segments = some segments') : ∀ s ∈ segments', Q s := by
  induction segments generalizing segments' with
  | nil => exact absurd h (Option.some_ne_none _).symm
  | cons s rest ih =>
    rw [List.forall_mem_cons] at hq
    cases s with
    | text id words =>
      obtain ⟨rest', hr, rfl⟩ := Option.map_eq_some_iff.1 h
      exact List.forall_mem_cons.2 ⟨hq.1, ih hq.2 hr⟩
    | tool id e =>
      rw [mergeCall?] at h
      split at h
      · rw [← Option.some.inj h]
        exact List.forall_mem_cons.2 ⟨hs.merged hu hq.1, hq.2⟩
      · obtain ⟨rest', hr, rfl⟩ := Option.map_eq_some_iff.1 h
        exact List.forall_mem_cons.2 ⟨hq.1, ih hq.2 hr⟩

/-- News of a call finds a segment just if there is one of that call. -/
theorem mergeCall?_isSome_iff {u : ToolUpdate} :
    (mergeCall? u segments).isSome = true ↔
      u.callId ∈ (segments.filterMap execution?).map (·.callId) := by
  rw [List.mem_map]
  constructor
  · intro h
    by_contra hn
    rw [mergeCall?_eq_none fun e he hc => hn ⟨e, he, hc⟩] at h
    exact Bool.noConfusion h
  · intro h
    obtain ⟨_, _, _, _, _, _, _, hm⟩ := mergeCall?_of_grows (grows_refl segments) h
    rw [hm u rfl]
    rfl

/-- Segments that go on are of the same calls, and more may have begun. -/
theorem callIds_prefix_of_grows (h : Grows Extends segments segments') :
    (segments.filterMap execution?).map (·.callId) <+:
      (segments'.filterMap execution?).map (·.callId) := by
  induction h with
  | nil bs => exact List.nil_prefix
  | cons hr _ ih =>
    cases hr with
    | text id words more => exact ih
    | tool id hc =>
      rw [List.filterMap_cons, List.filterMap_cons]
      exact List.cons_prefix_cons.2 ⟨hc.symm, ih⟩

end Segment

/-! ## Writing -/

/-- The news of calls that is written. -/
def Writing.updates : Writing → List ToolUpdate
  | .text _ => []
  | .pending us => us
  | .update u _ => [u]

/-- The calls that are to begin, unless the message has them. -/
def Writing.created : Writing → List String
  | .text _ => []
  | .pending us => us.map (·.callId)
  | .update u create => if create then [u.callId] else []

namespace Message

variable {U : ToolUpdate → Prop} {Q : Segment → Prop} {m : Message}

theorem forall_segments_appendText (hs : Segment.Stable U Q) (hq : ∀ s ∈ m.segments, Q s)
    (ids : Ids) (text : String) : ∀ s ∈ (m.appendText ids text).1.segments, Q s := by
  unfold appendText
  split
  · exact hq
  · split
    · next h => exact Segment.forall_extendLast? hs hq h
    · exact List.forall_mem_append.2 ⟨hq, List.forall_mem_singleton.2 (hs.text _ _)⟩

theorem forall_segments_applyUpdate (hs : Segment.Stable U Q) (hq : ∀ s ∈ m.segments, Q s)
    {u : ToolUpdate} (hu : U u) (create : Bool) :
    ∀ s ∈ (m.applyUpdate u create).2.segments, Q s := by
  unfold applyUpdate
  split
  · next h => exact Segment.forall_mergeCall? hs hq hu h
  · split
    · exact List.forall_mem_append.2 ⟨hq, List.forall_mem_singleton.2 (hs.begun hu _)⟩
    · exact hq

/-- A stable property of all segments is kept by whatever is written. -/
theorem forall_segments_write (hs : Segment.Stable U Q) (hq : ∀ s ∈ m.segments, Q s)
    {w : Writing} (hu : ∀ u ∈ w.updates, U u) (ids : Ids) :
    ∀ s ∈ (m.write ids w).segments, Q s := by
  cases w with
  | text words => exact forall_segments_appendText hs hq ids words
  | update u create => exact forall_segments_applyUpdate hs hq (hu u List.mem_cons_self) create
  | pending us =>
    induction us using List.reverseRecOn with
    | nil => exact hq
    | append_singleton us u ih =>
      have hu : ∀ u' ∈ us ++ [u], U u' := hu
      rw [List.forall_mem_append, List.forall_mem_singleton] at hu
      rw [write_pending_concat]
      exact forall_segments_applyUpdate hs (ih hu.1) hu.2 true

/-! ## The calls of a message -/

/-- A message that goes on has the calls that it had, in front of those that began later. -/
theorem Extends.callIds {m' : Message} (h : m.Extends m') : m.callIds <+: m'.callIds :=
  Segment.callIds_prefix_of_grows h.segments

theorem callIds_appendText (m : Message) (ids : Ids) (text : String) :
    (m.appendText ids text).1.callIds = m.callIds := by
  rw [(m.gains_appendText ids text).callIds]
  exact List.append_nil _

/-- News of a call begins it, if it may and the message does not have the call. -/
theorem callIds_applyUpdate (m : Message) (u : ToolUpdate) (create : Bool) :
    (m.applyUpdate u create).2.callIds =
      m.callIds ++ if create = true ∧ u.callId ∉ m.callIds then [u.callId] else [] := by
  have hm : (Segment.mergeCall? u m.segments).isSome = true ↔ u.callId ∈ m.callIds :=
    Segment.mergeCall?_isSome_iff
  unfold applyUpdate
  split
  · next segments h =>
    have hin : u.callId ∈ m.callIds := hm.1 (by rw [h]; rfl)
    rw [if_neg fun hc => hc.2 hin, List.append_nil, ← calls_outline, ← calls_outline, outline,
      Segment.outline_mergeCall? h, outline]
  · next h =>
    have hin : u.callId ∉ m.callIds := fun hin => by
      have hs := hm.2 hin
      rw [h] at hs
      exact Bool.noConfusion hs
    cases create with
    | true =>
      rw [if_pos rfl, if_pos ⟨rfl, hin⟩, callIds, executions, List.filterMap_append,
        List.map_append]
      rfl
    | false => exact (List.append_nil _).symm

/-- Only what is new comes last, when doubles are erased. -/
theorem eraseDups_concat (ids : List String) (id : String) :
    (ids ++ [id]).eraseDups = ids.eraseDups ++ if id ∉ ids then [id] else [] := by
  rw [List.eraseDups_append]
  by_cases h : id ∈ ids <;> simp [List.removeAll, List.eraseDups_cons, h]

theorem nodup_eraseDups (ids : List String) : ids.eraseDups.Nodup := by
  induction ids using List.reverseRecOn with
  | nil => exact List.nodup_nil
  | append_singleton ids id ih =>
    rw [eraseDups_concat]
    split
    · next h =>
      rw [← List.mem_eraseDups] at h
      exact List.nodup_append.2 ⟨ih, List.pairwise_singleton _ _, fun a ha b hb hab =>
        h (List.mem_singleton.1 hb ▸ hab ▸ ha)⟩
    · rwa [List.append_nil]

/-- Calls that begin where some are known, each where it comes first. -/
def newCalls (known created : List String) : List String :=
  (created.filter (· ∉ known)).eraseDups

/-- Calls that began before are known afterwards. -/
theorem newCalls_append (known created later : List String) :
    newCalls known (created ++ later) =
      newCalls known created ++ newCalls (known ++ newCalls known created) later := by
  have hf : (later.filter (· ∉ known)).removeAll (created.filter (· ∉ known)) =
      later.filter (· ∉ known ++ newCalls known created) := by
    rw [List.removeAll, List.filter_filter]
    refine List.filter_congr fun c _ => ?_
    by_cases hk : c ∈ known <;> by_cases hc : c ∈ created <;> simp [newCalls, hk, hc]
  rw [newCalls, List.filter_append, List.eraseDups_append, hf]
  rfl

/-- Every call that is to begin is known then. -/
theorem mem_append_newCalls {known created : List String} {c : String} (h : c ∈ created) :
    c ∈ known ++ newCalls known created := by
  rw [List.mem_append, newCalls, List.mem_eraseDups, List.mem_filter]
  by_cases hk : c ∈ known
  · exact .inl hk
  · exact .inr ⟨h, decide_eq_true hk⟩

theorem nodup_newCalls (known created : List String) : (newCalls known created).Nodup :=
  nodup_eraseDups _

theorem not_mem_of_mem_newCalls {known created : List String} {c : String}
    (h : c ∈ newCalls known created) : c ∉ known := by
  rw [newCalls, List.mem_eraseDups] at h
  exact of_decide_eq_true (List.mem_filter.1 h).2

theorem callIds_update (m : Message) (ids : Ids) (u : ToolUpdate) (create : Bool) :
    (m.write ids (.update u create)).callIds =
      m.callIds ++ newCalls m.callIds (Writing.update u create).created := by
  rw [write, callIds_applyUpdate, Writing.created]
  by_cases hc : u.callId ∈ m.callIds <;> cases create <;>
    simp [newCalls, hc, List.eraseDups_cons]

/-- A call begins last, if it may and the message does not have it. -/
theorem callIds_write_append (m : Message) (ids : Ids) (w : Writing) :
    (m.write ids w).callIds = m.callIds ++ newCalls m.callIds w.created := by
  cases w with
  | text words =>
    rw [write, callIds_appendText]
    exact (List.append_nil _).symm
  | update u create => exact callIds_update m ids u create
  | pending us =>
    induction us using List.reverseRecOn with
    | nil => exact (List.append_nil _).symm
    | append_singleton us u ih =>
      have hc : (Writing.pending (us ++ [u])).created =
          (Writing.pending us).created ++ (Writing.update u true).created :=
        List.map_append
      rw [write_pending_concat, callIds_update, ih, hc, newCalls_append, List.append_assoc]

/-- Whatever is written, the calls of a message are those that were to begin, each where it
    came first. -/
theorem callIds_write {created : List String} (h : m.callIds = created.eraseDups) (ids : Ids)
    (w : Writing) : (m.write ids w).callIds = (created ++ w.created).eraseDups := by
  have hf : w.created.filter (· ∉ created.eraseDups) = w.created.removeAll created :=
    List.filter_congr fun c _ => by simp
  rw [callIds_write_append, h, newCalls, hf, List.eraseDups_append]

/-! ## Every message -/

/-- A property of messages that those of a session have from their beginning, at a time, and
    that nothing takes away: not what may be written, nor whether a message of the assistant is
    being written, nor what it used. -/
structure Stable (W : Writing → Prop) (now : Int) (P : Message → Prop) : Prop where
  input : ∀ id content, P (.ofUser id content now)
  begun : ∀ id, P (.beginAssistant id now)
  marked : ∀ {m : Message}, m.isAssistant = true → P m →
    ∀ streaming usage, P { m with streaming, usage }
  written : ∀ {m : Message} {w : Writing}, m.isAssistant = true → W w → P m →
    ∀ ids, P (m.write ids w)

/-- The segment of a call has its identifier, and a message of the user is nothing but text. -/
structure Identified (m : Message) : Prop where
  named : ∀ s ∈ m.segments, s.Named
  plain : m.isAssistant = false → m.segments = [] ∧ m.usage = none

theorem stable_identified (now : Int) : Stable (fun _ => True) now Identified where
  input _ _ := ⟨List.forall_mem_nil _, fun _ => ⟨rfl, rfl⟩⟩
  begun _ := ⟨List.forall_mem_nil _, fun h => Bool.noConfusion h⟩
  marked ha h _ _ := ⟨h.named, fun hn => absurd (ha.symm.trans hn) Bool.noConfusion⟩
  written {m w} ha _ h ids := by
    refine ⟨forall_segments_write Segment.stable_named h.named (fun _ _ => trivial) ids,
      fun hn => ?_⟩
    rw [(m.extends_write ids w).isAssistant, ha] at hn
    exact Bool.noConfusion hn

end Message

end Dialogue
