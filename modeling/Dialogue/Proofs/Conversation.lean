import Dialogue.Conversation
import Dialogue.Proofs.Message.Storable

/-!
# What stored conversations come to

Whatever a stored conversation has, the messages that it comes to are as those of a session: the
segments are text, or begin with an update that could be read.

* `forall_segmentsOf`: so a stable property of segments is one of theirs;
* `identified_toMessages`: the segments of calls are named, and a message of the user is nothing
  but text;
* `storable_toMessages`: the messages of a conversation that was read can be stored again;
* `snd_toMessages`: a conversation that comes to no messages uses up no identifier.
-/

namespace Dialogue

open Json Tree

/-- News of a call that was read has its values in order. -/
theorem ToolUpdate.ordered_of_ofTree? {t : Tree} {u : ToolUpdate} (h : ofTree? t = some u) :
    u.Ordered := by
  unfold ofTree? at h
  obtain ⟨fields, -, h⟩ := Option.bind_eq_some_iff.1 h
  split at h
  · simp only [Option.bind_eq_bind, Option.bind_eq_some_iff, Option.some.injEq] at h
    obtain ⟨_, -, _, -, _, -, _, ha, _, -, _, hr, _, -, _, -, rfl⟩ := h
    refine ⟨fun v hv => ?_, fun v hv => ?_⟩
    · obtain ⟨t, ht⟩ := of_optional? ha v hv
      exact ordered_of_value? ht
    · obtain ⟨t, ht⟩ := of_optional? hr v hv
      exact ordered_of_value? ht
  · cases h

namespace StoredMessage

variable {U : ToolUpdate → Prop} {Q : Segment → Prop}

theorem forall_segment? (hs : Segment.Stable U Q)
    (hu : ∀ t u, ToolUpdate.ofTree? t = some u → U u) (ids : Ids) (v : Value) :
    ∀ s ∈ (segment? ids v).1, Q s := by
  unfold segment?
  simp only
  split
  · rintro s ⟨⟩
    exact hs.text _ _
  · intro s h
    obtain ⟨u, hu', rfl⟩ := Option.map_eq_some_iff.1 h
    obtain ⟨members, _, hm⟩ := Option.bind_eq_some_iff.1 hu'
    exact hs.begun (hu _ u hm) _
  · exact fun s h => absurd h (Option.not_mem_none s)

/-- A stable property of segments is one of all that are stored, if it asks of updates only
    what holds of those that can be read. -/
theorem forall_segmentsOf (hs : Segment.Stable U Q)
    (hu : ∀ t u, ToolUpdate.ofTree? t = some u → U u) (ids : Ids) (vs : List Value) :
    ∀ s ∈ (segmentsOf ids vs).1, Q s := by
  induction vs generalizing ids with
  | nil => exact List.forall_mem_nil _
  | cons v vs ih =>
    rw [segmentsOf]
    refine List.forall_mem_append.2 ⟨fun s h => ?_, ih _⟩
    exact forall_segment? hs hu ids v s (Option.mem_toList.1 h)

theorem identified_toMessage (m : StoredMessage) (ids : Ids) (now : Int) :
    ∀ m' ∈ (m.toMessage ids now).1, m'.Identified := by
  unfold toMessage
  split
  · exact fun m' h => absurd h (Option.not_mem_none m')
  · next role _ =>
    rintro m' ⟨⟩
    cases role with
    | user =>
      refine ⟨List.forall_mem_nil _, fun _ => ⟨rfl, ?_⟩⟩
      exact Option.filter_eq_none_iff.2 fun u _ => Bool.noConfusion
    | assistant =>
      refine ⟨forall_segmentsOf Segment.stable_named (fun _ _ _ => trivial) ids m.segments, ?_⟩
      exact fun h => Bool.noConfusion h

/-- A message without content of its own has that of its segments. -/
theorem contentOf_eq_empty {content : Value} {segments : List Segment}
    (h : contentOf content segments = "") :
    String.join (segments.filterMap Segment.text?) = "" := by
  unfold contentOf at h
  split at h
  · next text =>
    split_ifs at h with ht
    · exact h
    · exact absurd h ht
  · exact h

/-- If its time is one of 64 bits, and the present time as well, the message can be stored. -/
theorem storable_toMessage {m : StoredMessage} (hm : ∀ time ∈ m.timestamp, IsInt64 time) {now : Int}
    (hn : IsInt64 now) (ids : Ids) : ∀ m' ∈ (m.toMessage ids now).1, m'.Storable := by
  have hid := m.identified_toMessage ids now
  have ht : IsInt64 (m.timestamp.getD now) := by
    cases h : m.timestamp with
    | none => exact hn
    | some time => exact hm time h
  unfold toMessage at hid ⊢
  split
  · exact fun m' h => absurd h (Option.not_mem_none m')
  · next role hr =>
    rw [hr] at hid
    rintro m' ⟨⟩
    refine ⟨hid _ rfl, ?_, contentOf_eq_empty, ht⟩
    cases role with
    | user => exact List.forall_mem_nil _
    | assistant =>
      exact forall_segmentsOf Segment.stable_ordered (fun t u => ToolUpdate.ordered_of_ofTree?)
        ids m.segments

theorem snd_toMessage {m : StoredMessage} {ids : Ids} {now : Int}
    (h : (m.toMessage ids now).1 = none) : (m.toMessage ids now).2 = ids := by
  rw [toMessage] at h ⊢
  split at h
  · rfl
  · simp at h

theorem isInt64_timestamp {t : Tree} {m : StoredMessage} (h : ofTree? t = some m) :
    ∀ time ∈ m.timestamp, IsInt64 time := by
  unfold ofTree? at h
  obtain ⟨fields, -, h⟩ := Option.bind_eq_some_iff.1 h
  split at h
  · simp only [Option.bind_eq_bind, Option.bind_eq_some_iff, Option.some.injEq] at h
    obtain ⟨_, -, _, -, _, -, _, -, _, ht, _, -, _, -, rfl⟩ := h
    intro time hm
    obtain ⟨t, ht⟩ := of_optional? ht time hm
    exact isInt64_of_int64? ht
  · cases h

end StoredMessage

namespace Conversation

theorem snd_toMessages {c : Conversation} {ids : Ids} {now : Int}
    (h : (c.toMessages ids now).1 = []) : (c.toMessages ids now).2 = ids := by
  obtain ⟨id, messages⟩ := c
  rw [toMessages] at h ⊢
  induction messages generalizing ids with
  | nil => rfl
  | cons m ms ih =>
    obtain ⟨hm, hms⟩ := List.append_eq_nil_iff.1 h
    have hn : (m.toMessage ids now).2 = ids :=
      StoredMessage.snd_toMessage (Option.toList_eq_nil_iff.1 hm)
    exact (ih hms).trans hn

/-- What every message has that a stored one comes to, all messages of a conversation have. -/
theorem forall_toMessages {P : Message → Prop} {c : Conversation} {now : Int}
    (h : ∀ m ∈ c.messages, ∀ ids, ∀ m' ∈ (m.toMessage ids now).1, P m') (ids : Ids) :
    ∀ m ∈ (c.toMessages ids now).1, P m := by
  obtain ⟨id, messages⟩ := c
  rw [toMessages]
  induction messages generalizing ids with
  | nil => exact List.forall_mem_nil _
  | cons m ms ih =>
    rw [List.forall_mem_cons] at h
    rw [messagesOf]
    refine List.forall_mem_append.2 ⟨fun m' hm => h.1 ids m' (Option.mem_toList.1 hm), ih _ h.2⟩

theorem identified_toMessages (c : Conversation) (ids : Ids) (now : Int) :
    ∀ m ∈ (c.toMessages ids now).1, m.Identified :=
  forall_toMessages (fun m _ ids => m.identified_toMessage ids now) ids

/-- The messages of a conversation that was read were read. -/
theorem of_ofTree? {t : Tree} {c : Conversation} (h : ofTree? t = some c) :
    ∀ m ∈ c.messages, ∃ t, StoredMessage.ofTree? t = some m := by
  unfold ofTree? at h
  obtain ⟨fields, -, h⟩ := Option.bind_eq_some_iff.1 h
  split at h
  · simp only [Option.bind_eq_bind, Option.bind_eq_some_iff, Option.some.injEq] at h
    obtain ⟨_, -, messages, hm, rfl⟩ := h
    cases messages with
    | none => exact List.forall_mem_nil _
    | some messages =>
      obtain ⟨t, ht⟩ := of_optional? hm messages rfl
      exact of_list? ht
  · cases h

/-- The messages of a conversation that was read can be stored again. -/
theorem storable_toMessages {t : Tree} {c : Conversation} (h : ofTree? t = some c) {now : Int}
    (hn : IsInt64 now) (ids : Ids) : ∀ m ∈ (c.toMessages ids now).1, m.Storable := by
  refine forall_toMessages (fun m hm ids => ?_) ids
  obtain ⟨t, ht⟩ := of_ofTree? h m hm
  exact StoredMessage.storable_toMessage (StoredMessage.isInt64_timestamp ht) hn ids

end Conversation

end Dialogue
