import Dialogue.Proofs.Conversation.Restoring
import Dialogue.Session.Json

/-!
# Records read as they were written

What a session tells and takes is written as records: accounts, calls and news of them, segments,
messages, queued input, the progress of decisions and the outcomes of turns. Each kind has a reader
of its own, and what was written is read back. Only the generating time of an account is derived,
so it is never read (`Usage.reread`), and where nothing can be said as `null`, a `null` that was
something is not told apart from it.

* `ToolExecution.ofTree?_toJson`, `Segment.ofTree?_toJson`, `Message.ofTree?_toJson`: the records
  that hold others, from the inside out;
* `records_read_back`: every kind of record.
-/

namespace Dialogue

open Json Tree

/-! ## Calls and their news -/

theorem ToolStatus.ofTree?_toJson (mode : Mode) (status : ToolStatus) :
    ofTree? mode status.toJson.toTree = some status :=
  status.ofName?_name

/-- The values that a call has are in order, and the result is not a `null`, which would be read as
    no result. -/
structure ToolExecution.Recordable (e : ToolExecution) : Prop where
  ordered : e.Ordered
  result : e.result ≠ some .null

/-- The values that news of a call have are in order, and none is a `null`, which would be read as
    no news of it. -/
structure ToolUpdate.Recordable (u : ToolUpdate) : Prop where
  ordered : u.Ordered
  arguments : u.arguments ≠ some .null
  result : u.result ≠ some .null

theorem ToolExecution.ofTree?_toJson {e : ToolExecution} (h : e.Recordable) (mode : Mode) :
    ofTree? mode e.toJson.toTree = some e := by
  have htitle : optional? string? (some (Value.ofOption .string e.title).toTree) = some e.title :=
    optional?_ofOption (fun _ => rfl) (fun _ => Value.noConfusion) _
  have hstatus : required? (ToolStatus.ofTree? mode) (some e.status.toJson.toTree) =
      some e.status :=
    e.status.ofTree?_toJson mode
  have hresult : optional? value? (e.result.map Value.toTree) = some e.result :=
    optional?_map_self (fun v hv => value?_toTree (h.ordered.result v hv))
      fun v hv hn => h.result (hn ▸ hv)
  have herror : optional? string? (e.error.map fun m => (Value.string m).toTree) = some e.error :=
    optional?_map_self (fun _ _ => rfl) fun _ _ => Value.noConfusion
  have happroval : withDefault? false bool? (some (Value.bool e.requiresApproval).toTree) =
      some e.requiresApproval := rfl
  rw [ofTree?, toJson_eq, fields?_ofMembers keys (by decide) (by decide) e.keys_members]
  simp [toolSpellings, members, Function.comp_def, htitle, hstatus, hresult, herror, happroval,
    withDefault?_value? h.ordered.arguments]

theorem ToolUpdate.ofTree?_toJson_self {u : ToolUpdate} (h : u.Recordable) :
    ofTree? u.toJson.toTree = some u := by
  have htext (o : Option String) :
      optional? string? (some (Value.ofOption .string o).toTree) = some o :=
    optional?_ofOption (fun _ => rfl) (fun _ => Value.noConfusion) o
  have hvalue {o : Option Value} (ho : ∀ v ∈ o, v.Ordered) (hn : o ≠ some .null) :
      optional? value? (some (Value.ofOption id o).toTree) = some o :=
    optional?_ofOption_self (fun v hv => value?_toTree (ho v hv)) fun v hv he => hn (he ▸ hv)
  have hstatus : optional? (ToolStatus.ofTree? .direct)
      (some (Value.ofOption ToolStatus.toJson u.status).toTree) = some u.status :=
    optional?_ofOption (ToolStatus.ofTree?_toJson .direct) (fun _ => Value.noConfusion) _
  have happroval : optional? bool? (some (Value.ofOption .bool u.requiresApproval).toTree) =
      some u.requiresApproval :=
    optional?_ofOption (fun _ => rfl) (fun _ => Value.noConfusion) _
  rw [ofTree?, toJson, fields?_ofMembers
    ["callId", "name", "title", "arguments", "status", "result", "error", "requiresApproval"]
    (by decide) (by decide) (.refl _)]
  simp [toolSpellings, htext, hstatus, happroval, hvalue h.ordered.arguments h.arguments,
    hvalue h.ordered.result h.result]

/-! ## Segments and messages -/

/-- A segment of text, or of a call that can be recorded. -/
def Segment.Recordable (s : Segment) : Prop :=
  ∀ e ∈ s.execution?, e.Recordable

theorem Segment.ofTree?_toJson {s : Segment} (h : s.Recordable) :
    ofTree? s.toJson.toTree = some s := by
  have ho : s.toJson.Ordered := ordered_toJson fun e he => (h e he).ordered
  cases s with
  | text id words =>
    rw [toJson_text] at ho ⊢
    rw [ofTree?, tagged?_toTree ho rfl]
    rfl
  | tool id e =>
    rw [toJson_tool] at ho ⊢
    have he : required? (ToolExecution.ofTree? .buffered) (some e.toJson.toTree) = some e :=
      ToolExecution.ofTree?_toJson (h e rfl) .buffered
    have hf : (Value.object [("execution", e.toJson), ("id", .string id)]).toTree.fields?
        [["id"], ["execution"]] = some [some (Value.string id).toTree, some e.toJson.toTree] := rfl
    rw [ofTree?, tagged?_toTree ho rfl]
    simp [hf, he]

/-- A message can be recorded if its segments can and its time is one of 64 bits. -/
structure Message.Recordable (m : Message) : Prop where
  segments : ∀ s ∈ m.segments, s.Recordable
  createdAt : IsInt64 m.createdAt

/-- The message that is read where one was written. -/
def Message.reread (m : Message) : Message :=
  { m with usage := m.usage.map Usage.reread }

theorem Message.ofTree?_toJson {m : Message} (h : m.Recordable) :
    ofTree? m.toJson.toTree = some m.reread := by
  have hrole : required? Role.ofTree? (some m.role.toJson.toTree) = some m.role := by
    cases m.role <;> rfl
  have hcontent : withDefault? "" string? (some (Value.string m.content).toTree) =
      some m.content := rfl
  have htime : required? int64? (some (Value.int m.createdAt).toTree) = some m.createdAt :=
    int64?_int h.createdAt
  have hstreaming : withDefault? false bool? (some (Value.bool m.streaming).toTree) =
      some m.streaming := rfl
  have hsegments : withDefault? [] (list? Segment.ofTree?) ((if m.segments = [] then none else
      some ("segments", Value.array (m.segments.map Segment.toJson))).map (·.2.toTree)) =
        some m.segments := by
    split_ifs with hs
    · rw [hs]
      rfl
    · have hl : list? Segment.ofTree? (Value.array (m.segments.map Segment.toJson)).toTree =
          some (m.segments.map fun s => s) :=
        list?_array fun s hs => Segment.ofTree?_toJson (h.segments s hs)
      rwa [List.map_id'] at hl
  have husage : optional? Usage.ofTree? (m.usage.map fun u => u.toJson.toTree) =
      some (m.usage.map Usage.reread) :=
    optional?_map (fun u _ => u.ofTree?_toJson) fun _ _ => nofun
  rw [ofTree?, toJson_eq, fields?_ofMembers keys (by decide) (by decide) m.keys_members]
  simp [spellings, members, reread, Function.comp_def, hrole, hcontent, htime, hstreaming,
    hsegments, husage]

/-! ## What else a session tells -/

theorem QueuedInput.ofTree?_toJson {q : QueuedInput} (h : IsInt64 q.enqueuedAt) :
    ofTree? q.toJson.toTree = some q := by
  have htime : required? int64? (some (Value.int q.enqueuedAt).toTree) = some q.enqueuedAt :=
    int64?_int h
  rw [ofTree?, toJson, fields?_ofMembers ["id", "content", "enqueuedAtMs"] (by decide) (by decide)
    (.refl _)]
  simp [htime]

/-- The numbers of calls are of 64 bits. -/
structure Progress.Recordable (p : Progress) : Prop where
  completed : p.completed < 18446744073709551616
  total : p.total < 18446744073709551616

theorem Progress.ofTree?_toJson {p : Progress} (h : p.Recordable) :
    ofTree? p.toJson.toTree = some p := by
  have hcompleted : required? nat64? (some (Value.nat p.completed).toTree) = some p.completed :=
    nat64?_nat h.completed
  have htotal : required? nat64? (some (Value.nat p.total).toTree) = some p.total :=
    nat64?_nat h.total
  have hdecision : required? Decision.ofTree? (some p.decision.toJson.toTree) =
      some p.decision := by
    cases p.decision <;> rfl
  rw [ofTree?, toJson, fields?_ofMembers ["completed", "total", "decision"] (by decide) (by decide)
    (.refl _)]
  simp [hcompleted, htotal, hdecision]

theorem Outcome.ofTree?_toJson (o : Outcome) : ofTree? o.toJson.toTree = some o := by
  cases o with
  | completed => rfl
  | cancelled => rfl
  | failed message =>
    have ho : (Value.object [("message", .string message), ("outcome", .string "failed")]).Ordered :=
      .object (List.pairwise_pair.2 (show "message" < "outcome" by decide)) (by simp)
    rw [toJson, Value.ofMembers_pair_swapped (by decide), ofTree?, tagged?_toTree ho rfl]
    rfl

/-! ## Every kind of record -/

/-- Whatever is written as a record is read back, with all that it holds. Of accounts, also of that
    of a message, the generating time is not read. Values have to be in order and numbers of 64
    bits, as they always are in a program, and what may be missing must not be there as a `null`. -/
theorem records_read_back :
    (∀ u : Usage, Usage.ofTree? u.toJson.toTree = some { u with generation := 0 }) ∧
    (∀ e : ToolExecution, e.Recordable →
      ∀ mode, ToolExecution.ofTree? mode e.toJson.toTree = some e) ∧
    (∀ u : ToolUpdate, u.Recordable → ToolUpdate.ofTree? u.toJson.toTree = some u) ∧
    (∀ s : Segment, s.Recordable → Segment.ofTree? s.toJson.toTree = some s) ∧
    (∀ m : Message, m.Recordable → Message.ofTree? m.toJson.toTree =
      some { m with usage := m.usage.map fun u => { u with generation := 0 } }) ∧
    (∀ q : QueuedInput, IsInt64 q.enqueuedAt → QueuedInput.ofTree? q.toJson.toTree = some q) ∧
    (∀ p : Progress, p.Recordable → Progress.ofTree? p.toJson.toTree = some p) ∧
    ∀ o : Outcome, Outcome.ofTree? o.toJson.toTree = some o :=
  ⟨Usage.ofTree?_toJson, fun _ => ToolExecution.ofTree?_toJson,
    fun _ => ToolUpdate.ofTree?_toJson_self, fun _ => Segment.ofTree?_toJson,
    fun _ => Message.ofTree?_toJson, fun _ => QueuedInput.ofTree?_toJson,
    fun _ => Progress.ofTree?_toJson, Outcome.ofTree?_toJson⟩

/-- An answer with text, a call that was denied and one with a result, and an account; and the news
    of a call, input that waits and progress. -/
theorem records_read_back_answer :
    let arguments : Value := .ofMembers [("replicas", .int (-3)),
      ("images", .array [.null, .ofMembers [("tag", .string "1.2"), ("arch", .null)]])]
    let denied := { ToolExecution.bare "c1" .denied with name := "scale", arguments := arguments }
    let done := { ToolExecution.bare "c2" .completed with
      title := some "List", result := some arguments, requiresApproval := true }
    let usage : Usage := { prompt := 7, response := some 90, generation := 50 }
    let m : Message := { Message.beginAssistant "a" (-1) with
      segments := [.text "t" "Grüße", .ofExecution denied, .tool "s" done], usage := some usage }
    let u : ToolUpdate := { callId := "c1", arguments := some arguments, status := some .error }
    let q : QueuedInput := ⟨"q", "next", 1700000000000⟩
    let p : Progress := ⟨1, 18446744073709551615, .deny⟩
    (denied.Recordable ∧ ∀ mode, ToolExecution.ofTree? mode denied.toJson.toTree = some denied) ∧
    (u.Recordable ∧ ToolUpdate.ofTree? u.toJson.toTree = some u) ∧
    (Segment.Recordable (.tool "s" done) ∧
      Segment.ofTree? (Segment.tool "s" done).toJson.toTree = some (.tool "s" done)) ∧
    (m.Recordable ∧ Message.ofTree? m.toJson.toTree =
      some { m with usage := some { usage with generation := 0 } }) ∧
    (IsInt64 q.enqueuedAt ∧ QueuedInput.ofTree? q.toJson.toTree = some q) ∧
    (p.Recordable ∧ Progress.ofTree? p.toJson.toTree = some p) := by
  intro arguments denied done usage m u q p
  have himage : (Value.ofMembers [("tag", .string "1.2"), ("arch", .null)]).Ordered :=
    Value.ordered_ofMembers (by simp)
  have himages : (Value.array
      [.null, .ofMembers [("tag", .string "1.2"), ("arch", .null)]]).Ordered :=
    .array (by simp [himage])
  have ha : arguments.Ordered := Value.ordered_ofMembers (by simp [himages, Value.int])
  have hnull : arguments ≠ .null := nofun
  have hdenied : denied.Recordable := ⟨⟨ha, nofun⟩, nofun⟩
  have hdone : done.Recordable := ⟨⟨.null, fun _ hv => Option.some.inj hv ▸ ha⟩,
    fun h => hnull (Option.some.inj h)⟩
  have hu : u.Recordable := ⟨⟨fun _ hv => Option.some.inj hv ▸ ha, nofun⟩,
    fun h => hnull (Option.some.inj h), nofun⟩
  have hs : Segment.Recordable (.tool "s" done) := fun _ he => Option.some.inj he ▸ hdone
  have hm : m.Recordable := by
    refine ⟨?_, by decide, by decide⟩
    simp only [m, List.forall_mem_cons]
    exact ⟨nofun, fun _ he => Option.some.inj he ▸ hdenied, hs, List.forall_mem_nil _⟩
  have hq : IsInt64 q.enqueuedAt := ⟨by decide, by decide⟩
  have hp : p.Recordable := ⟨by decide, by decide⟩
  obtain ⟨-, he, hn, hseg, hmsg, hqueued, hprogress, -⟩ := records_read_back
  exact ⟨⟨hdenied, he _ hdenied⟩, ⟨hu, hn u hu⟩, ⟨hs, hseg _ hs⟩, ⟨hm, hmsg m hm⟩,
    ⟨hq, hqueued q hq⟩, hp, hprogress p hp⟩

end Dialogue
