import Dialogue.Event.Decode
import Dialogue.Proofs.Conversation.Restoring
import Dialogue.Proofs.Session.Course

/-!
# Messages that come back from where they are stored

Whatever a session has finalized comes back when it was stored: the records of its messages, put
into a stored conversation and read again, come to the same messages in the same order. It does
not matter whether they were written by the session or loaded into it.

What is asked of inputs is only that they are such as a program has (`Input.Genuine`): that is so
of all events that come from the wire (`TurnEvent.ordered_of_decode`).

* `storable_run`: the messages of a session can be stored, after any inputs;
* `stored_messages_come_back`: so they come back.
-/

namespace Dialogue

open Json

/-! ## Events from the wire -/

/-- The values in the news that an event brings are in order. -/
def TurnEvent.Ordered (e : TurnEvent) : Prop :=
  ∀ w ∈ e.writing?, ∀ u ∈ w.updates, u.Ordered

theorem ToolUpdate.Ordered.orStatus {u : ToolUpdate} (h : u.Ordered) (status : ToolStatus) :
    (u.orStatus status).Ordered :=
  ⟨h.arguments, h.result⟩

theorem Payload.ordered_of_pendingTools? {t : Tree} {us : List ToolUpdate}
    (h : pendingTools? t = some us) : ∀ u ∈ us, u.Ordered := by
  unfold pendingTools? at h
  obtain ⟨fields, -, h⟩ := Option.bind_eq_some_iff.1 h
  split at h
  · simp only [Option.bind_eq_bind, Option.bind_eq_some_iff, Option.some.injEq] at h
    obtain ⟨updates, hu, rfl⟩ := h
    obtain ⟨t, -, hl⟩ := Option.bind_eq_some_iff.1 hu
    refine List.forall_mem_map.2 fun u hmem => ?_
    obtain ⟨t, ht⟩ := of_list? hl u hmem
    exact (ToolUpdate.ordered_of_ofTree? ht).orStatus _
  · cases h

namespace TurnEvent

theorem ordered_of_none {e : TurnEvent} (h : e.writing? = none) : e.Ordered :=
  fun w hw => absurd (h ▸ hw) (Option.not_mem_none w)

theorem of_orMalformed {name data : String} {o : Option TurnEvent} {e : TurnEvent}
    (h : orMalformed name data o = .event e) : o = some e := by
  unfold orMalformed at h
  split at h
  · rw [Decoded.event.inj h]
  · cases h

/-- Events that are read off the wire have their values in order. -/
theorem ordered_of_decode {name data : String} {e : TurnEvent} (h : decode name data = .event e) :
    e.Ordered := by
  unfold decode at h
  split_ifs at h
  · obtain ⟨id, -, rfl⟩ := Option.map_eq_some_iff.1 (of_orMalformed h)
    exact ordered_of_none rfl
  · obtain rfl := Decoded.event.inj h
    rintro w ⟨⟩
    exact List.forall_mem_nil _
  · obtain ⟨us, hu, rfl⟩ := Option.map_eq_some_iff.1 (of_orMalformed h)
    obtain ⟨t, -, ht⟩ := Option.bind_eq_some_iff.1 hu
    rintro w ⟨⟩
    exact Payload.ordered_of_pendingTools? ht
  · obtain ⟨report, -, rfl⟩ := Option.map_eq_some_iff.1 (of_orMalformed h)
    exact ordered_of_none rfl
  · split at h
    · cases h
    · split at h
      · obtain rfl := Decoded.event.inj h
        exact ordered_of_none rfl
      · cases h
  · obtain ⟨v, -, rfl⟩ := Option.map_eq_some_iff.1 (of_orMalformed h)
    exact ordered_of_none rfl
  · obtain ⟨v, -, rfl⟩ := Option.map_eq_some_iff.1 (of_orMalformed h)
    exact ordered_of_none rfl
  · obtain rfl := Decoded.event.inj h
    exact ordered_of_none rfl
  · split at h
    · obtain ⟨u, hu, rfl⟩ := Option.map_eq_some_iff.1 (of_orMalformed h)
      obtain ⟨t, -, ht⟩ := Option.bind_eq_some_iff.1 hu
      rintro w ⟨⟩
      exact List.forall_mem_singleton.2 ((ToolUpdate.ordered_of_ofTree? ht).orStatus _)
    · cases h

end TurnEvent

/-! ## The messages of a session -/

/-- An input such as a program has: the values that an event carries are in order, and messages
    that are loaded are those of a stored conversation that was read at some time. -/
def Input.Genuine : Input → Prop
  | .event e => e.event.Ordered
  | .command (.hydrate messages) => ∃ (t : Tree) (c : Conversation) (ids : Ids) (now : Int),
      Conversation.ofTree? t = some c ∧ IsInt64 now ∧ messages = (c.toMessages ids now).1
  | _ => True

theorem Message.Storable.settled {m : Message} (h : m.Storable) : m.settled.Storable :=
  ⟨⟨h.identified.named, h.identified.plain⟩, h.ordered, h.voiced, h.createdAt⟩

namespace Session

/-- The messages of a session can be stored, after any inputs. -/
theorem storable_run (conversationId : String) (interval now : Nat) (ids : Ids)
    {inputs : List Input} (hi : ∀ i ∈ inputs, i.Genuine)
    (hn : IsInt64 ((start conversationId interval now ids).run inputs).now) :
    ∀ m ∈ ((start conversationId interval now ids).run inputs).transcript.messages,
      m.Storable := by
  refine forall_messages_run (coherent_start conversationId interval now ids)
    (Transcript.lasting_of_none rfl) (fun time ht => Message.stable_storable ?_)
    (fun e he => hi _ he) (fun messages h m hm => ?_) (List.forall_mem_nil _)
  · -- Time only goes on, so no message began later than now.
    have hle := hn.2
    exact ⟨by omega, by omega⟩
  · obtain ⟨t, c, ids, now, hc, hn, rfl⟩ := hi _ h
    exact (Conversation.storable_toMessages hc hn ids m hm).settled

/-- A message that a session can have finalized, after any inputs such as a program has. Like all
    times, the present time is one of 64 bits. -/
def Finalizes (m : Message) : Prop :=
  ∃ (conversationId : String) (interval now : Nat) (ids : Ids) (inputs : List Input),
    (∀ i ∈ inputs, i.Genuine) ∧
    IsInt64 ((start conversationId interval now ids).run inputs).now ∧
    m ∈ ((start conversationId interval now ids).run inputs).transcript.finalized

theorem Finalizes.restorable {m : Message} (h : Finalizes m)
    (hr : ∀ e ∈ m.executions, e.result ≠ some .null) : m.Restorable := by
  obtain ⟨conversationId, interval, now, ids, inputs, hi, hn, hm⟩ := h
  refine ⟨storable_run conversationId interval now ids hi hn m (List.mem_append_left _ hm), ?_, hr⟩
  exact (logged_run conversationId interval now ids inputs).coherent.marked.finalized m hm

/-- What is stored comes back. Take any messages that sessions have finalized, written by them or
    loaded into them, with no result of a call that is `null`. Their records under `messages` are
    a stored conversation, and that comes to the same messages, in the same order. Only the
    generating time in their accounts is not read, and an account that is then empty is none. -/
theorem stored_messages_come_back {ms : List Message}
    (hm : ∀ m ∈ ms, Finalizes m ∧ ∀ e ∈ m.executions, e.result ≠ some .null) :
    ∃ c, Conversation.ofTree?
        (Value.ofMembers [("messages", .array (ms.map Message.toJson))]).toTree = some c ∧
      ∀ ids now, c.toMessages ids now = (ms.map fun m =>
        { m with usage := (m.usage.map ({ · with generation := 0 })).filter (!·.isEmpty) }, ids) :=
  Conversation.toMessages_record fun m hmem => (hm m hmem).1.restorable (hm m hmem).2

/-- A call that was loaded, and one with an account and a text. -/
theorem stored_messages_come_back_loaded :
    let segment : Value := .object [("execution", .object [("name", .string "ls")]),
      ("id", .string "a"), ("kind", .string "tool")]
    let record : Value := .ofMembers [("id", .string "m"), ("type", .string "assistant"),
      ("segments", .array [segment]), ("timestamp", .int 5)]
    let t : Tree := (Value.ofMembers [("messages", .array [record])]).toTree
    let c : Conversation :=
      ⟨none, [⟨some "m", none, some "assistant", .null, some 5, [segment], none⟩]⟩
    let ids : Ids := ⟨fun n => String.ofList (List.replicate n 'i'), 0⟩
    let inputs : List Input :=
      [.command (.hydrate (c.toMessages ids 0).1), .command (.submit "go"),
        .event ⟨1, .usage (.counters 1 2 3 0) .main⟩, .event ⟨1, .token "so"⟩,
        .event ⟨1, .tool .executing { callId := "b", arguments := some (.bool true) }⟩,
        .event ⟨1, .completed (some 7)⟩]
    let s := (start "c" 100 0 ids).run inputs
    Conversation.ofTree? t = some c ∧
    (∀ m ∈ s.transcript.finalized, Finalizes m ∧ ∀ e ∈ m.executions, e.result ≠ some .null) ∧
    s.transcript.finalized.map (fun m => (m.content, m.executions.map (·.callId))) =
      [("", ["a"]), ("go", []), ("so", ["b"])] ∧
    ∃ c, Conversation.ofTree? (Value.ofMembers
        [("messages", .array (s.transcript.finalized.map Message.toJson))]).toTree = some c ∧
      (c.toMessages ids 0).1 = s.transcript.finalized := by
  intro segment record t c ids inputs s
  have hs : (start "c" 100 0 ids).run inputs = s := rfl
  have hc : Conversation.ofTree? t = some c := by decide +kernel
  have hcall : ToolUpdate.Ordered { callId := "b", arguments := some (.bool true) } :=
    ⟨by simp, by simp⟩
  have hi : ∀ i ∈ inputs, i.Genuine := by
    refine List.forall_mem_cons.2 ⟨⟨t, c, ids, 0, hc, ⟨by decide, by decide⟩, rfl⟩, ?_⟩
    refine List.forall_mem_cons.2 ⟨trivial, ?_⟩
    refine List.forall_mem_cons.2 ⟨TurnEvent.ordered_of_none rfl, ?_⟩
    refine List.forall_mem_cons.2 ⟨?_, List.forall_mem_cons.2 ⟨?_, List.forall_mem_singleton.2 ?_⟩⟩
    · rintro w ⟨⟩
      exact List.forall_mem_nil _
    · rintro w ⟨⟩
      exact List.forall_mem_singleton.2 hcall
    · exact TurnEvent.ordered_of_none rfl
  have hm : ∀ m ∈ s.transcript.finalized,
      Finalizes m ∧ ∀ e ∈ m.executions, e.result ≠ some .null := by
    have hr : ∀ m ∈ s.transcript.finalized, ∀ e ∈ m.executions, e.result ≠ some .null := by
      decide +kernel
    refine fun m hm => ⟨⟨"c", 100, 0, ids, inputs, hi, ?_, ?_⟩, hr m hm⟩
    · exact ⟨by decide +kernel, by decide +kernel⟩
    · rw [hs]
      exact hm
  refine ⟨hc, hm, by decide +kernel, ?_⟩
  obtain ⟨c', hc', hback⟩ := stored_messages_come_back hm
  refine ⟨c', hc', ?_⟩
  rw [hback]
  decide +kernel

end Session

end Dialogue
