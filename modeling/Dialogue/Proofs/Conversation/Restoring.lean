import Dialogue.Proofs.Conversation

/-!
# Conversations read as they were written

A message is written as a record, and a stored conversation holds such records. But its reader is
another one than that of messages: it takes the calls of a segment for news of them, and what is
missing in their records for something that the news does not tell. Still a message that can be
stored (`Message.Storable`) comes back as it was, except for the generating time in its account,
which is derived and never read.

* `Usage.ofTree?_toJson`, `ToolUpdate.ofTree?_toJson`, `segmentsOf_toJson`: accounts, calls and
  segments;
* `StoredMessage.ofTree?_toJson`, `toMessage_stored`: the record of a message is read as what is
  stored of it, and that comes to the message;
* `Conversation.toMessages_record`: so do the records of a conversation.
-/

namespace Dialogue

open Json Tree

/-! ## Accounts -/

theorem Count.ofTree?_toJson (c : Count) : Count.ofTree? c.toJson.toTree = some c := by
  rw [toJson, ofTree?, nat64?_nat c.val_lt, Option.map_some, ofNat_val]

namespace Usage

theorem counter?_toJson (c : Count) : counter? (some c.toJson.toTree) = some c := by
  rw [counter?, optional?_of_ne_null c.ofTree?_toJson nofun]
  rfl

/-- The account that is read where one was written: the generating time is not. -/
def reread (u : Usage) : Usage :=
  { u with generation := 0 }

theorem ofTree?_toJson (u : Usage) : Usage.ofTree? u.toJson.toTree = some u.reread := by
  rw [ofTree?, toJson, fields?_ofMembers
    ["promptTokens", "completionTokens", "totalTokens", "cachedTokens", "timeToFirstToken",
      "timeToResponse", "totalGenerationMs"] (by decide) (by decide) (.refl _)]
  simp [spellings, counter?_toJson, optional?_ofOption Count.ofTree?_toJson fun _ => nofun, reread]

end Usage

/-! ## Calls -/

theorem ToolStatus.ofName?_name (status : ToolStatus) : ofName? status.name = some status := by
  cases status <;> decide

namespace ToolExecution

/-- What the record of a call tells of it. -/
def told (e : ToolExecution) : ToolUpdate where
  callId := e.callId
  name := some e.name
  title := e.title
  arguments := if e.arguments = .null then none else some e.arguments
  status := some e.status
  result := e.result
  error := e.error
  requiresApproval := some e.requiresApproval

/-- Nothing else has to be known of a call. -/
theorem ofUpdate_told (e : ToolExecution) (status : ToolStatus) : ofUpdate e.told status = e := by
  -- Arguments that are `null` are not told, and a call of which none are told has `null`.
  have ha : (if e.arguments = .null then none else some e.arguments).getD .null = e.arguments := by
    split_ifs with h
    · exact h.symm
    · rfl
  simp [ofUpdate, merge, told, bare, ha]

/-- The members of the record of a call. -/
def members (e : ToolExecution) : List (String × Value) :=
  [("callId", .string e.callId), ("name", .string e.name),
    ("title", .ofOption .string e.title), ("arguments", e.arguments),
    ("status", e.status.toJson), ("requiresApproval", .bool e.requiresApproval)] ++
  (e.result.map fun r => ("result", r)).toList ++
  (e.error.map fun m => ("error", .string m)).toList

theorem toJson_eq (e : ToolExecution) : e.toJson = .ofMembers e.members := rfl

/-- The keys that the members of the record of a call can have. -/
def keys : List String :=
  ["callId", "name", "title", "arguments", "status", "requiresApproval"] ++ ["result"] ++ ["error"]

theorem keys_members (e : ToolExecution) : (e.members.map (·.1)).Sublist keys := by
  rw [members, List.map_append, List.map_append]
  exact ((List.Sublist.refl _).append (Members.keys_toList _ _ _)).append
    (Members.keys_toList _ _ _)

theorem nodup_keys (e : ToolExecution) : (e.members.map (·.1)).Nodup :=
  List.Nodup.sublist e.keys_members (by decide)

theorem ordered_toJson {e : ToolExecution} (h : e.Ordered) : e.toJson.Ordered := by
  rw [toJson_eq, members]
  refine Value.ordered_ofMembers (List.forall_mem_append.2 ⟨List.forall_mem_append.2 ⟨?_, ?_⟩, ?_⟩)
  · simp [ToolStatus.toJson, h.arguments]
  · simpa using h.result
  · simp

end ToolExecution

/-- The record of a call is read as news of it. -/
theorem ToolUpdate.ofTree?_toJson {e : ToolExecution} (h : e.Ordered) (hr : e.result ≠ some .null) :
    ToolUpdate.ofTree? e.toJson.toTree = some e.told := by
  have htitle : optional? string? (some (Value.ofOption .string e.title).toTree) = some e.title :=
    optional?_ofOption (fun _ => rfl) (fun _ => Value.noConfusion) _
  have hstatus : optional? (ToolStatus.ofTree? .direct) (some e.status.toJson.toTree) =
      some (some e.status) :=
    optional?_of_ne_null (v := e.status.toJson) e.status.ofName?_name Value.noConfusion
  have hresult : optional? value? (e.result.map Value.toTree) = some e.result :=
    optional?_map_self (fun v hv => value?_toTree (h.result v hv)) fun v hv hn => hr (hn ▸ hv)
  have herror : optional? string? (e.error.map fun m => (Value.string m).toTree) = some e.error :=
    optional?_map_self (fun _ _ => rfl) fun _ _ => Value.noConfusion
  rw [ofTree?, ToolExecution.toJson_eq, fields?_ofMembers ToolExecution.keys (by decide) (by decide)
    e.keys_members]
  simp [toolSpellings, ToolExecution.members, Function.comp_def, htitle, hstatus, hresult, herror,
    optional?_value? h.arguments, ToolExecution.told]

/-! ## Segments -/

namespace Segment

/-- A segment can be stored: if it is of a call, then the values of the call are in order, and the
    result is not a `null`. -/
structure Storable (s : Segment) : Prop where
  named : s.Named
  ordered : s.Ordered
  result : ∀ e ∈ s.execution?, e.result ≠ some .null

theorem toJson_text (id words : String) : toJson (.text id words) =
    .object [("id", .string id), ("kind", .string "text"), ("text", .string words)] := by
  have hid : "id" < "kind" := by decide
  have htext : ¬"text" < "id" ∧ "text" ≠ "id" ∧ ¬"text" < "kind" ∧ "text" ≠ "kind" := by decide
  obtain ⟨h, hne, h', hne'⟩ := htext
  simp only [toJson, Value.ofMembers, Members.insertAll, List.foldl_cons, List.foldl_nil,
    Members.insert, if_pos hid, if_neg h, if_neg hne, if_neg h', if_neg hne']

theorem toJson_tool (id : String) (e : ToolExecution) : toJson (.tool id e) =
    .object [("execution", e.toJson), ("id", .string id), ("kind", .string "tool")] := by
  have hid : "id" < "kind" := by decide
  have he : "execution" < "id" := by decide
  simp only [toJson, Value.ofMembers, Members.insertAll, List.foldl_cons, List.foldl_nil,
    Members.insert, if_pos hid, if_pos he]

theorem ordered_toJson {s : Segment} (h : s.Ordered) : s.toJson.Ordered := by
  cases s with
  | text id words => exact Value.ordered_ofMembers (by simp)
  | tool id e =>
    have he : e.toJson.Ordered := ToolExecution.ordered_toJson (h e rfl)
    exact Value.ordered_ofMembers (by simpa using he)

end Segment

namespace StoredMessage

/-- A call that was written has its identifier. -/
theorem identified?_members (id : Option String) (e : ToolExecution) :
    identified? id (Members.insertAll [] e.members) = some (Members.insertAll [] e.members) := by
  have hm : ("callId", Value.string e.callId) ∈ Members.insertAll [] e.members :=
    (Members.perm_insertAll (ToolExecution.nodup_keys e)).mem_iff.2 List.mem_cons_self
  have hk : ((Members.insertAll [] e.members).lookup "callId").isSome = true :=
    List.lookup_isSome_iff.2 ⟨_, hm, beq_self_eq_true _⟩
  rw [identified?, hk, Bool.or_true, if_pos rfl]

theorem segment?_toJson {s : Segment} (h : s.Storable) (ids : Ids) :
    segment? ids s.toJson = (some s, ids) := by
  cases s with
  | text id words =>
    rw [Segment.toJson_text]
    rfl
  | tool id e =>
    -- The call is read with its own identifier, and the segment is given that.
    obtain rfl : id = e.callId := h.named e rfl
    have hi : ((Segment.tool e.callId e).toJson.get? "id").bind Value.string? = some e.callId := by
      rw [Segment.toJson_tool]
      rfl
    have hk : ((Segment.tool e.callId e).toJson.get? "kind").bind Value.string? = some "tool" := by
      rw [Segment.toJson_tool]
      rfl
    have hm : executionMembers? (Segment.tool e.callId e).toJson =
        some (Members.insertAll [] e.members) := by
      rw [Segment.toJson_tool]
      rfl
    have hu : ToolUpdate.ofTree? (Value.object (Members.insertAll [] e.members)).toTree =
        some e.told :=
      ToolUpdate.ofTree?_toJson (h.ordered e rfl) (h.result e rfl)
    rw [segment?, hi, hk, hm]
    simp only [Option.bind_some]
    rw [identified?_members, Option.bind_some, hu, Option.map_some, e.ofUpdate_told,
      Segment.ofExecution]

theorem segmentsOf_toJson {segments : List Segment} (h : ∀ s ∈ segments, s.Storable) (ids : Ids) :
    segmentsOf ids (segments.map Segment.toJson) = (segments, ids) := by
  induction segments with
  | nil => rfl
  | cons s rest ih =>
    rw [List.forall_mem_cons] at h
    rw [List.map_cons, segmentsOf, segment?_toJson h.1]
    simp only
    rw [ih h.2]
    rfl

end StoredMessage

/-! ## Messages -/

namespace Message

/-- The members of the record of a message. -/
def members (m : Message) : List (String × Value) :=
  [("id", .string m.id), ("role", m.role.toJson), ("content", .string m.content),
    ("createdAtMs", .int m.createdAt), ("streaming", .bool m.streaming)] ++
  (if m.segments.isEmpty then []
    else [("segments", .array (m.segments.map Segment.toJson))]) ++
  (m.usage.map fun u => ("usage", u.toJson)).toList

theorem toJson_eq (m : Message) : m.toJson = .ofMembers m.members := rfl

/-- The keys that the members of the record of a message can have. -/
def keys : List String :=
  ["id", "role", "content", "createdAtMs", "streaming"] ++ ["segments"] ++ ["usage"]

theorem keys_members (m : Message) : (m.members.map (·.1)).Sublist keys := by
  have hs : ((if m.segments.isEmpty then []
      else [("segments", Value.array (m.segments.map Segment.toJson))]).map (·.1)).Sublist
        ["segments"] := by
    split_ifs
    · exact List.nil_sublist _
    · exact .refl _
  rw [members, List.map_append, List.map_append]
  exact ((List.Sublist.refl _).append hs).append (Members.keys_toList _ _ _)

/-- What is stored of a message. -/
def stored (m : Message) : StoredMessage where
  id := some m.id
  role := some m.role.name
  olderRole := none
  content := .string m.content
  timestamp := some m.createdAt
  segments := m.segments.map Segment.toJson
  usage := m.usage.map Usage.reread

end Message

/-- The message that comes back: its account is read again, and left out if it is of nothing. -/
def Message.restored (m : Message) : Message :=
  { m with usage := (m.usage.map Usage.reread).filter fun u => !u.isEmpty }

/-- A message comes back if it can be stored, is not being written, and has no result that would be
    read as nothing. -/
structure Message.Restorable (m : Message) : Prop where
  storable : m.Storable
  settled : m.streaming = false
  result : ∀ e ∈ m.executions, e.result ≠ some .null

theorem Message.Restorable.segments {m : Message} (h : m.Restorable) :
    ∀ s ∈ m.segments, s.Storable :=
  fun s hs => ⟨h.storable.identified.named s hs, h.storable.ordered s hs,
    fun e he => h.result e (List.mem_filterMap.2 ⟨s, hs, he⟩)⟩

namespace StoredMessage

/-- The record of a message is read as what is stored of it. -/
theorem ofTree?_toJson {m : Message} (h : m.Storable) :
    ofTree? m.toJson.toTree = some m.stored := by
  have hrole : optional? string? (some m.role.toJson.toTree) = some (some m.role.name) := rfl
  have hcontent : withDefault? .null value? (some (Value.string m.content).toTree) =
      some (.string m.content) := rfl
  have htime : optional? int64? (some (Value.int m.createdAt).toTree) = some (some m.createdAt) :=
    optional?_of_ne_null (int64?_int h.createdAt) nofun
  have hsegments : withDefault? [] (list? value?) ((if m.segments = [] then none else
      some ("segments", Value.array (m.segments.map Segment.toJson))).map (·.2.toTree)) =
        some (m.segments.map Segment.toJson) := by
    split_ifs with hs
    · rw [hs]
      rfl
    · exact list?_array fun s hs => value?_toTree (Segment.ordered_toJson (h.ordered s hs))
  have husage : optional? Usage.ofTree? (m.usage.map fun u => u.toJson.toTree) =
      some (m.usage.map Usage.reread) :=
    optional?_map (fun u _ => u.ofTree?_toJson) fun _ _ => nofun
  rw [ofTree?, Message.toJson_eq, fields?_ofMembers Message.keys (by decide) (by decide)
    m.keys_members]
  simp [Message.members, Message.stored, Function.comp_def, hrole, hcontent, htime, hsegments,
    husage]

theorem contentOf_string {m : Message} (h : m.Voiced) :
    contentOf (.string m.content) m.segments = m.content := by
  rw [contentOf]
  split_ifs with hc
  · rw [hc, h hc]
  · rfl

/-- What is stored of a message comes to the message. -/
theorem toMessage_stored {m : Message} (h : m.Restorable) (ids : Ids) (now : Int) :
    m.stored.toMessage ids now = (some m.restored, ids) := by
  have hrole : (m.stored.role <|> m.stored.olderRole).bind Role.ofName? = some m.role := by
    rw [Message.stored]
    cases m.role <;> rfl
  have hsegments : (if m.role = .assistant then segmentsOf ids m.stored.segments else ([], ids)) =
      (m.segments, ids) := by
    split_ifs with ha
    · exact segmentsOf_toJson h.segments ids
    · -- Segments of the user are not read, but there are none.
      rw [(h.storable.identified.plain (beq_eq_false_iff_ne.2 ha)).1]
  have husage : (m.stored.usage.filter fun u => m.role == .assistant && !u.isEmpty) =
      m.restored.usage := by
    rw [Message.stored, Message.restored]
    cases ha : m.isAssistant with
    | true =>
      rw [Message.isAssistant] at ha
      simp [ha]
    | false =>
      rw [(h.storable.identified.plain ha).2]
      rfl
  rw [toMessage, hrole]
  simp only [hsegments, husage]
  rw [Message.stored]
  simp only [contentOf_string h.storable.voiced, Option.getD_some, idOrFresh]
  rw [Message.restored, h.settled]

end StoredMessage

/-! ## Conversations -/

namespace Conversation

/-- The record of a conversation has the records of its messages. -/
def record (ms : List Message) : Value :=
  .ofMembers [("messages", .array (ms.map Message.toJson))]

theorem ofTree?_record {ms : List Message} (h : ∀ m ∈ ms, m.Storable) :
    ofTree? (record ms).toTree = some ⟨none, ms.map Message.stored⟩ := by
  have hm : optional? (list? StoredMessage.ofTree?)
      (some (Value.array (ms.map Message.toJson)).toTree) = some (some (ms.map Message.stored)) :=
    optional?_of_ne_null (list?_array fun m hm => StoredMessage.ofTree?_toJson (h m hm)) nofun
  rw [ofTree?, record, fields?_ofMembers ["messages"] (by decide) (by decide) (.refl _)]
  simp [hm]

theorem messagesOf_stored {ms : List Message} (h : ∀ m ∈ ms, m.Restorable) (ids : Ids) (now : Int) :
    messagesOf ids now (ms.map Message.stored) = (ms.map Message.restored, ids) := by
  induction ms with
  | nil => rfl
  | cons m ms ih =>
    rw [List.forall_mem_cons] at h
    rw [List.map_cons, messagesOf, StoredMessage.toMessage_stored h.1]
    simp only
    rw [ih h.2]
    rfl

/-- The records of messages, read as a stored conversation, come to the messages, in order. No
    identifier is taken for them, and the time does not matter. -/
theorem toMessages_record {ms : List Message} (h : ∀ m ∈ ms, m.Restorable) :
    ∃ c, ofTree? (record ms).toTree = some c ∧
      ∀ ids now, c.toMessages ids now = (ms.map Message.restored, ids) :=
  ⟨_, ofTree?_record fun m hm => (h m hm).storable, messagesOf_stored h⟩

end Conversation

end Dialogue
