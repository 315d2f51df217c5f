import Dialogue.Proofs.Conversation
import Dialogue.Proofs.Session.Accumulating
import Dialogue.Proofs.Session.Course

/-!
# Calls by their identifiers

Events find a call by its identifier. So the segment of a call has that identifier, in every
message of a session, and as long as a message was not loaded it has each call once: where it
came first among those that events wrote at its place (`Session.createdAt`).

* `identified_run`: the segments of calls are named, if those that are loaded are;
* `calls_written`: an event begins the calls that it is to begin, except those that the message
  has;
* `Numbered.react`: so the calls that were written at a place are those that were to begin, each
  where it came first;
* `calls_keep_identity`: what is known of the calls of every message, after any inputs.
-/

namespace Dialogue

/-- The calls that an event is to begin, unless the message has them. -/
def TurnEvent.created (e : TurnEvent) : List String :=
  e.writing?.toList.flatMap Writing.created

/-- The calls that a transition is to begin. -/
def Transition.created (t : Transition) : List String :=
  match t.input with
  | .event e => if t.before.isLive e.generation then e.event.created else []
  | _ => []

/-- The calls that were to begin in the message at a place, in order. -/
def createdAt (h : List Transition) (n : Nat) : List String :=
  (h.filter (·.place == n)).flatMap (·.created)

namespace Session

open Transcript Written

variable {s s' : Session} {h : List Transition} {i : Input}

/-! ## Names -/

/-- The segments of calls are named in every message, if they are in those that are loaded. -/
theorem identified_run (conversationId : String) (interval now : Nat) (ids : Ids)
    {inputs : List Input}
    (hi : ∀ messages, .command (.hydrate messages) ∈ inputs → ∀ m ∈ messages, m.Identified) :
    ∀ m ∈ ((start conversationId interval now ids).run inputs).transcript.messages,
      m.Identified := by
  refine forall_messages_run (coherent_start conversationId interval now ids) (lasting_of_none rfl)
    (fun now _ => Message.stable_identified now) (fun _ _ _ _ => trivial)
    (fun messages h m hm => ?_) (List.forall_mem_nil _)
  exact ⟨(hi messages h m hm).named, (hi messages h m hm).plain⟩

/-! ## The calls of a message -/

/-- The message under way has the calls that it had, and those that the event was to begin. -/
theorem callsInProgress_apply (hb : s.transcript.BelongsTo s.generation) {e : TurnEvent}
    (he : e.isTerminal = false) {created : List String}
    (hs : s.callsInProgress = created.eraseDups) :
    (s.apply e).callsInProgress = (created ++ e.created).eraseDups := by
  rw [callsInProgress_eq] at hs
  cases inscribes_apply hb he with
  | nothing hw hx =>
    have hc : (s.apply e).callsInProgress = s.underWay.message.callIds := by
      rw [← callsInProgress_eq, callsInProgress, hx, callsInProgress]
    rw [hc, TurnEvent.created]
    cases hwr : e.writing? with
    | none =>
      rw [Option.toList_none, List.flatMap_nil, List.append_nil]
      exact hs
    | some w =>
      have hm := Message.callIds_write hs s.ids w
      rw [hw w hwr] at hm
      rw [Option.toList_some, List.flatMap_singleton]
      exact hm
  | @notes usage hwr hx =>
    have hc : (s.apply e).callsInProgress = s.callsInProgress := by
      rw [callsInProgress, callsInProgress, hx, current?, current?, noted]
      cases s.transcript.inProgress <;> rfl
    rw [hc, callsInProgress_eq, TurnEvent.created, hwr, Option.toList_none, List.flatMap_nil,
      List.append_nil]
    exact hs
  | @writes w ids hwr hx =>
    have hc : (s.apply e).callsInProgress = (s.underWay.message.write ids w).callIds := by
      rw [callsInProgress, hx]
      exact List.append_nil _
    rw [hc, TurnEvent.created, hwr, Option.toList_some, List.flatMap_singleton]
    exact Message.callIds_write hs ids w

theorem callsInProgress_of_unmarked
    (hc : s'.transcript.current?.map Message.unmarked =
      s.transcript.current?.map Message.unmarked) : s'.callsInProgress = s.callsInProgress := by
  have hu (m : Option Message) :
      (m.map Message.unmarked).toList.flatMap Message.callIds =
        m.toList.flatMap Message.callIds := by
    cases m <;> rfl
  rw [callsInProgress, ← hu, hc, hu, callsInProgress]

/-- The calls that something written begins are those that the message under way gains. -/
theorem Wrote.callsInProgress {ws : List Written} (hw : s.Wrote ws s') :
    s'.callsInProgress = s.callsInProgress ++ calls ws := by
  cases hw with
  | nothing hws _ hc =>
    rw [← rights_spelled, hws]
    exact (callsInProgress_of_unmarked hc).trans (List.append_nil _).symm
  | gains hg hx =>
    rw [s.callsInProgress_eq, ← hg.callIds, Session.callsInProgress, hx]
    exact List.append_nil _

/-- An event writes the calls that it is to begin, except those that the message has. -/
theorem calls_written (hb : s.transcript.BelongsTo s.generation) {e : TurnEvent}
    (he : e.isTerminal = false) {created : List String}
    (hs : s.callsInProgress = created.eraseDups) :
    created.eraseDups ++ calls (s.written e) = (created ++ e.created).eraseDups := by
  rw [← hs, ← (wrote_apply hb he).callsInProgress]
  exact callsInProgress_apply hb he hs

/-! ## The calls of a place -/

theorem createdAt_concat (h : List Transition) (t : Transition) (n : Nat) :
    createdAt (h ++ [t]) n = createdAt h n ++ if t.place = n then t.created else [] := by
  by_cases hn : t.place = n <;> simp [createdAt, hn]

/-- Only an event that writes is to begin calls. -/
theorem created_eq_nil
    (hw : ¬∃ e, i = .event e ∧ s.isLive e.generation = true ∧ e.event.isTerminal = false) :
    (s.transition i).created = [] := by
  cases i with
  | command c | elapse time => rfl
  | event e =>
    refine ite_eq_right_iff.2 fun hl => ?_
    have he : e.event.isTerminal = true := Bool.of_not_eq_false fun hf => hw ⟨e, rfl, hl, hf⟩
    obtain ⟨generation, event⟩ := e
    cases event with
    | completed time | error message => rfl
    | _ => exact Bool.noConfusion he

/-- What is known of a session that comes with a history: the calls that were written at a place
    are those that were to begin there, each where it came first, unless a message was loaded
    there. -/
structure Numbered (h : List Transition) (s : Session) : Prop where
  chronicled : Chronicled h s
  calls : ∀ n, (loadedBy h).length ≤ n → calls (writtenAt h n) = (createdAt h n).eraseDups

theorem Recorded.callIds {ws : List Written} {m : Message} (hr : Recorded none ws m) :
    m.callIds = calls ws := by
  rw [← m.calls_outline]
  exact calls_of_spelled (hr.spelled rfl)

/-- The calls of the message under way are those that were to begin at its place. -/
theorem Numbered.callsInProgress (hs : Numbered h s)
    (hl : (loadedBy h).length ≤ s.transcript.finalized.length) :
    s.callsInProgress = (createdAt h s.transcript.finalized.length).eraseDups := by
  have hr := hs.chronicled.underWay
  rw [List.getElem?_eq_none hl] at hr
  rw [← hs.calls _ hl, callsInProgress_eq, hr.callIds]

theorem Numbered.react (hs : Numbered h s) (i : Input) :
    Numbered (h ++ [s.transition i]) (s.react i).2 := by
  refine ⟨hs.chronicled.react i, fun n hn => ?_⟩
  have hl : (loadedBy h).length ≤ n := by
    rw [loadedBy_concat, List.length_append] at hn
    exact Nat.le_trans (Nat.le_add_right _ _) hn
  rw [writtenAt_concat, createdAt_concat]
  split
  · next hp =>
    by_cases hw : ∃ e, i = .event e ∧ s.isLive e.generation = true ∧ e.event.isTerminal = false
    · obtain ⟨e, rfl, hlive, he⟩ := hw
      have hp : s.transcript.finalized.length = n := hp
      subst hp
      have hwritten : (s.transition (.event e)).written = s.written e.event := if_pos hlive
      have hcreated : (s.transition (.event e)).created = e.event.created := if_pos hlive
      rw [hwritten, hcreated,
        ← calls_written hs.chronicled.coherent.belongsTo he (hs.callsInProgress hl),
        ← hs.calls _ hl]
      exact List.filterMap_append
    · rw [written_eq_nil hw, created_eq_nil hw, List.append_nil, List.append_nil]
      exact hs.calls n hl
  · rw [List.append_nil, List.append_nil]
    exact hs.calls n hl

theorem numbered_run (conversationId : String) (interval now : Nat) (ids : Ids)
    (inputs : List Input) :
    Numbered ((start conversationId interval now ids).history inputs)
      ((start conversationId interval now ids).run inputs) :=
  history_induction ⟨chronicled_start conversationId interval now ids, fun _ _ => rfl⟩
    fun _ _ i _ hs => hs.react i

/-- However long a session goes on, its messages stay in their places and go on. -/
theorem grows_run (hc : s.Coherent) (hl : s.transcript.Lasting) (inputs : List Input) :
    Grows Message.Extends s.transcript.messages (s.run inputs).transcript.messages :=
  (run_induction (P := fun s' => s'.Coherent ∧ s.transcript.Carries s'.transcript)
    ⟨hc, hl.carries⟩ fun s' i _ ⟨hc', hx⟩ =>
      ⟨hc'.react i, hx.trans (hc'.carries hx.lasting (s'.reaction i))⟩).2.grows

/-- Calls are told apart by their identifiers. If the messages that were loaded are those of
    stored conversations, then after any inputs, in every message the segment of a call has the
    identifier of the call, and a message of the user has neither segments nor usage. The calls
    of a message that was not loaded are pairwise distinct, and they are those that events were
    to begin at its place, each where it came first. And whatever comes later, a message stays in
    its place with the calls that it has in front, in the same order. -/
theorem calls_keep_identity (conversationId : String) (interval now : Nat) (ids : Ids)
    (inputs : List Input)
    (hi : ∀ messages, .command (.hydrate messages) ∈ inputs →
      ∃ (c : Conversation) (ids : Ids) (now : Int), messages = (c.toMessages ids now).1) :
    let s := start conversationId interval now ids
    let h := s.history inputs
    ∀ n m, (s.run inputs).transcript.messages[n]? = some m →
      (∀ id e, .tool id e ∈ m.segments → id = e.callId) ∧
      (m.role = .user → m.segments = [] ∧ m.usage = none) ∧
      ((loadedBy h).length ≤ n → m.callIds.Nodup ∧
        (m.role = .assistant → m.callIds = (createdAt h n).eraseDups)) ∧
      ∀ later, ∃ m', (s.run (inputs ++ later)).transcript.messages[n]? = some m' ∧
        m'.id = m.id ∧ m.callIds <+: m'.callIds := by
  intro s h n m hm
  have hid : m.Identified := by
    refine identified_run conversationId interval now ids (fun messages hmem m hm => ?_) m
      (List.mem_of_getElem? hm)
    obtain ⟨c, ids, now, rfl⟩ := hi messages hmem
    exact c.identified_toMessages ids now m hm
  have hs : Numbered h (s.run inputs) := numbered_run conversationId interval now ids inputs
  have hcalls (ha : m.isAssistant = true) (hl : (loadedBy h).length ≤ n) :
      m.callIds = (createdAt h n).eraseDups := by
    have hr := hs.chronicled.recorded n m hm ha
    rw [List.getElem?_eq_none hl] at hr
    rw [hr.callIds, hs.calls n hl]
  refine ⟨fun id e he => hid.named _ he e rfl,
    fun hu => hid.plain (by rw [Message.isAssistant, hu]; rfl),
    fun hl => ⟨?_, fun ha => hcalls (by rw [Message.isAssistant, ha]; rfl) hl⟩, fun later => ?_⟩
  · cases ha : m.isAssistant with
    | true =>
      rw [hcalls ha hl]
      exact Message.nodup_eraseDups _
    | false =>
      rw [Message.callIds, Message.executions, (hid.plain ha).1]
      exact List.nodup_nil
  · rw [run_append]
    have hg := grows_run hs.chronicled.coherent hs.chronicled.lasting later
    obtain ⟨m', hm', hx⟩ := hg.getElem? hm
    exact ⟨m', hm', hx.id, hx.callIds⟩

/-- A call that is pending twice, and of which there is news, begins once and stays in front. -/
theorem calls_keep_identity_pending :
    let stored : StoredMessage := ⟨some "m", some "assistant", none, .null, some 0,
      [.object [("execution", .object [("name", .string "ls")]), ("id", .string "a"),
        ("kind", .string "tool")]], none⟩
    let ids : Ids := ⟨fun n => String.ofList (List.replicate n 'i'), 0⟩
    let messages := (Conversation.toMessages ⟨none, [stored]⟩ ids 0).1
    let inputs : List Input :=
      [.command (.hydrate messages), .command (.submit "go"),
        .event ⟨1, .toolsPending [{ callId := "b" }, { callId := "c" }, { callId := "b" }]⟩,
        .event ⟨1, .tool .executing { callId := "b" }⟩]
    let s := (start "c" 100 0 ids).run inputs
    (∀ messages, .command (.hydrate messages) ∈ inputs →
      ∃ (c : Conversation) (ids : Ids) (now : Int), messages = (c.toMessages ids now).1) ∧
    (∃ m, s.transcript.messages[0]? = some m ∧ m.callIds = ["a"] ∧
      ∀ id e, .tool id e ∈ m.segments → id = e.callId) ∧
    ∃ m, s.transcript.messages[2]? = some m ∧ m.callIds.Nodup ∧ m.callIds = ["b", "c"] := by
  intro stored ids messages inputs s
  have hi : ∀ messages, .command (.hydrate messages) ∈ inputs →
      ∃ (c : Conversation) (ids : Ids) (now : Int), messages = (c.toMessages ids now).1 := by
    intro messages' h
    obtain rfl : messages' = messages := by simpa [inputs] using h
    exact ⟨_, ids, 0, rfl⟩
  have hs := calls_keep_identity "c" 100 0 ids inputs hi
  refine ⟨hi, ?_, ?_⟩
  · have hm : (s.transcript.messages[0]?).map (·.callIds) = some ["a"] := by decide
    obtain ⟨m, hm, hc⟩ := Option.map_eq_some_iff.1 hm
    exact ⟨m, hm, hc, (hs 0 m hm).1⟩
  · have hm : (s.transcript.messages[2]?).map (·.role) = some .assistant := by decide
    obtain ⟨m, hm, hr⟩ := Option.map_eq_some_iff.1 hm
    obtain ⟨hn, hc⟩ := (hs 2 m hm).2.2.1 (by decide)
    exact ⟨m, hm, hn, (hc hr).trans (by decide)⟩

end Session

end Dialogue
