import Dialogue.Proofs.Message.Stable
import Dialogue.Proofs.Session.Draining
import Dialogue.Proofs.Session.Growth
import Dialogue.Proofs.Session.Inscribing
import Dialogue.Proofs.Session.Queueing

/-!
# The course of an input

Apart from what it tells, an input has one of a few courses (`Session.Course`). Turns are begun
in several places, when input is submitted or started, pulled out of the queue or drained from
it, and continuations in some. What comes before is the same each time: whatever was in progress
is finalized, and the session is cleared (`Session.Clears`). Else the session rests, perhaps with
its last message finalized; an event writes, or stored messages are taken.

* `Coherent.clears_interrupt`, `clears_completed`, `clears_failed`: the ends of a stream clear a
  session;
* `Coherent.course`: every way of taking an input has one of these courses;
* `Course.forall_messages`, `forall_messages_run`: so a stable property (`Message.Stable`) is one
  of all messages, after any inputs.
-/

namespace Dialogue

namespace Session

open Effect Transcript

variable {s e e' s' : Session} {origin : Option Origin} {i : Input}

/-- From one session to another nothing was asked, and what was in progress was finalized. -/
structure Clears (s e : Session) : Prop where
  silent : s.Silent e
  conversationId : e.conversationId = s.conversationId
  now : e.now = s.now
  transcript : ∃ usage, e.transcript = (s.transcript.finalize usage).2

/-- The course of an input. A turn that begins is about input of the origin given. -/
inductive Course (s : Session) (origin : Option Origin) : Input → Session → Prop
  | rests {i : Input} {s' : Session} : s.Silent s' → s'.conversationId = s.conversationId →
      s.now ≤ s'.now →
      (s'.transcript = s.transcript ∨ ∃ usage, s'.transcript = (s.transcript.finalize usage).2) →
      Course s origin i s'
  | turns {i : Input} {e : Session} {o : Origin} : origin = some o → s.Clears e →
      Course s origin i (e.beginTurn o.content)
  | continues {i : Input} {e : Session} {callId : String} {decision : Decision}
      {reason : Option String} : s.Clears e →
      Course s origin i (e.beginContinuation callId decision reason)
  | writes {e : Envelope} : s.isLive e.generation = true → e.event.isTerminal = false →
      Course s origin (.event e) (s.apply e.event)
  | hydrates {messages : List Message} : s.canHydrate = true →
      Course s origin (.command (.hydrate messages)) (s.hydrated messages)

/-! ## Clearing a session -/

theorem Clears.inProgress (h : s.Clears e) : e.transcript.inProgress = none := by
  obtain ⟨usage, ht⟩ := h.transcript
  rw [ht, inProgress_finalize]

/-- With nothing in progress, a session is clear as it is. -/
theorem clears_of_none (h : s.transcript.inProgress = none) : s.Clears s where
  silent := .refl s
  conversationId := rfl
  now := rfl
  transcript := ⟨none, by rw [finalize_of_none h]⟩

/-- What is not about the messages does not matter. -/
theorem Clears.silently (h : s.Clears e) (hs : e.Silent e')
    (hc : e'.conversationId = e.conversationId) (hn : e'.now = e.now)
    (ht : e'.transcript = e.transcript) : s.Clears e' where
  silent := h.silent.trans hs
  conversationId := hc.trans h.conversationId
  now := hn.trans h.now
  transcript := by
    rw [ht]
    exact h.transcript

theorem Coherent.clears_of_noTurn (h : s.Coherent) (ht : s.turn = none) : s.Clears s :=
  clears_of_none (h.quiet ht).inProgress

theorem clears_interrupt (turn : ActiveTurn) (ht : s.turn = some turn) : s.Clears s.interrupt := by
  have hs := s.silent_interrupt
  rw [interrupt_eq ht] at hs ⊢
  exact ⟨hs, rfl, rfl, ⟨_, rfl⟩⟩

theorem Coherent.clears_interrupt (h : s.Coherent) : s.Clears s.interrupt := by
  cases ht : s.turn with
  | none =>
    rw [interrupt_of_noTurn ht]
    exact h.clears_of_noTurn ht
  | some turn => exact Session.clears_interrupt turn ht

theorem clears_completed (s : Session) (turn : ActiveTurn) (time : Option Count) :
    s.Clears (s.completed turn time) :=
  ⟨silent_of_acts (acts_of_tellings rfl) rfl, rfl, rfl, ⟨_, rfl⟩⟩

theorem clears_failed (s : Session) (turn : ActiveTurn) (message : String) :
    s.Clears (s.failed turn message) :=
  ⟨silent_of_acts (acts_of_tellings rfl) rfl, rfl, rfl, ⟨_, rfl⟩⟩

theorem Clears.releaseImmediate (h : s.Clears e) : s.Clears e.releaseImmediate :=
  h.silently (silent_releaseImmediate e) rfl rfl rfl

theorem Clears.withQueue (h : s.Clears e) (q : InputQueue) : s.Clears (e.withQueue q) :=
  h.silently (silent_withQueue e q) rfl rfl rfl

theorem Clears.setPhase (h : s.Clears e) (p : Phase) : s.Clears (e.setPhase p) := by
  have hs := silent_setPhase e p
  rw [setPhase_eq] at hs ⊢
  exact h.silently hs rfl rfl rfl

theorem Clears.rested (h : s.Clears e) (outcome : Outcome) : s.Clears (e.rested outcome) :=
  h.silently (silent_of_acts (acts_of_tellings rfl) rfl) rfl rfl rfl

/-- What a session does before it is cleared may be anything that asks nothing and leaves the
    messages alone. -/
theorem Clears.of_silent (h : s'.Clears e) (hs : s.Silent s')
    (hc : s'.conversationId = s.conversationId) (hn : s'.now = s.now)
    (ht : s'.transcript = s.transcript) : s.Clears e where
  silent := hs.trans h.silent
  conversationId := h.conversationId.trans hc
  now := h.now.trans hn
  transcript := by
    rw [← ht]
    exact h.transcript

/-! ## Every input -/

theorem rests_of_eq (hs : s.Silent s') (hc : s'.conversationId = s.conversationId)
    (hn : s.now ≤ s'.now) (ht : s'.transcript = s.transcript) : s.Course origin i s' :=
  .rests hs hc hn (.inl ht)

/-- A session that was cleared may be left at that. -/
theorem Clears.rests (h : s.Clears e) : s.Course origin i e :=
  .rests h.silent h.conversationId (Nat.le_of_eq h.now.symm) (.inr h.transcript)

/-- If draining the queue begins a turn, that is about the oldest entry. -/
theorem course_drainQueue (hn : s.Course (s.queue.entries.head?.map .drained) i e)
    (hd : e.CanDrain → s.Clears e ∧ e.queue.entries.head? = s.queue.entries.head?) :
    s.Course (s.queue.entries.head?.map .drained) i e.drainQueue := by
  rcases e.drainQueue_cases with ⟨he, _⟩ | ⟨entry, rest, hc, hq, he⟩
  · rw [he]
    exact hn
  · obtain ⟨hcl, hh⟩ := hd hc
    rw [he, ← hh, hq]
    exact .turns (o := .drained entry) rfl (hcl.withQueue _)

theorem Clears.course_drainQueue (h : s.Clears e)
    (hq : e.queue.entries = s.queue.entries) :
    s.Course (s.queue.entries.head?.map .drained) i e.drainQueue :=
  Session.course_drainQueue h.rests fun _ => ⟨h, congrArg _ hq⟩

theorem Clears.course_settle (h : s.Clears e) (hq : e.queue.entries = s.queue.entries)
    (outcome : Outcome) : s.Course (s.queue.entries.head?.map .drained) i (e.settle outcome) := by
  rw [settle_eq]
  exact (h.rested outcome).course_drainQueue hq

theorem course_complete {turn : ActiveTurn} (ht : s.turn = some turn) (time : Option Count) :
    s.Course (s.queue.entries.head?.map .drained) i (s.complete time) := by
  have hc := s.clears_completed turn time
  rw [complete_eq ht]
  cases s.approvals.complete.1 with
  | next callId decision progress => exact .continues hc
  | finished progress => exact hc.releaseImmediate.course_settle rfl _
  | idle => exact hc.releaseImmediate.course_settle rfl _

theorem course_fail {turn : ActiveTurn} (ht : s.turn = some turn) (message : String) :
    s.Course (s.queue.entries.head?.map .drained) i (s.fail message) := by
  rw [fail_eq ht]
  exact (s.clears_failed turn message).course_settle rfl _

/-- Input that is queued comes last, so that it is not what a turn is about. -/
theorem Coherent.course_queued (h : s.Coherent) {content : String}
    (hb : s.phase ≠ .idle ∨ s.queue.entries ≠ []) :
    s.Course (s.queue.entries.head?.map .drained) i (s.withQueued content).drainQueue := by
  have hs : s.Silent (s.withQueued content) :=
    ⟨s.ids.isPrefixOf_advance, [], acts_withQueued s content, rfl⟩
  refine course_drainQueue (rests_of_eq hs rfl (Nat.le_refl _) rfl) fun hd => ⟨?_, ?_⟩
  · exact (h.clears_of_noTurn hd.noTurn).silently hs rfl rfl rfl
  · have hq : (s.withQueued content).queue.entries =
        s.queue.entries ++ [s.queuedInput content] := rfl
    obtain ⟨entry, rest, he⟩ := List.exists_cons_of_ne_nil (hb.resolve_left (absurd hd.idle))
    rw [hq, he]
    rfl

/-- A turn that is cancelled is cleared away before the queue is drained. -/
theorem course_cancelled {turn : ActiveTurn} (ht : s.turn = some turn) :
    s.Course (s.queue.entries.head?.map .drained) i (s.cancelled.setPhase .idle).drainQueue := by
  have hc : s.Clears s.cancelled := by
    have hs := s.silent_releaseImmediate.trans (silent_setPhase _ .cancelling)
    rw [cancelled]
    rw [setPhase_eq] at hs ⊢
    refine Clears.of_silent (clears_interrupt turn ?_) hs rfl rfl rfl
    exact ht
  refine (hc.setPhase .idle).course_drainQueue ?_
  rw [queue_setPhase, cancelled, queue_interrupt, queue_setPhase]
  rfl

/-- Every way of taking an input has one of these courses. -/
theorem Coherent.course (h : s.Coherent) {r : Option (Except Error Reply)}
    (hr : s.Reaction i r s') : s.Course (s.origin? i r) i s' := by
  have hi : s.Clears s.interrupt := h.clears_interrupt
  cases hr with
  | refuses _ | ignores _ => exact rests_of_eq (.refl s) rfl (Nat.le_refl _) rfl
  | waits => exact rests_of_eq (silent_of_outbox_eq rfl rfl) rfl (Nat.le_add_right _ _) rfl
  | writes hl he => exact .writes hl he
  | completes hl =>
    obtain ⟨_, turn, ht⟩ := (s.isLive_iff _).1 hl
    exact course_complete ht _
  | fails hl =>
    obtain ⟨_, turn, ht⟩ := (s.isLive_iff _).1 hl
    exact course_fail ht _
  | @starts content _ hp _ =>
    exact .turns (o := .direct content) rfl (h.clears_of_noTurn (h.idle_iff.1 hp))
  | queues _ hb => exact h.course_queued hb
  | @restarts content _ => exact .turns (o := .direct content) rfl hi.releaseImmediate
  | @pulls id entry before after _ hq hid hb =>
    have hw := (h.congr (s.withQueue ⟨before ++ after, true⟩) rfl rfl rfl rfl rfl).clears_interrupt
    exact .turns (o := .pulled entry) (origin?_submitNow hq hid hb _)
      (hw.of_silent (silent_withQueue s _) rfl rfl rfl)
  | removes _ _ _ => exact rests_of_eq (silent_withQueue s _) rfl (Nat.le_refl _) rfl
  | restsOn _ =>
    rw [abortApprovals_eq]
    exact rests_of_eq (silent_of_acts (acts_of_tellings rfl) rfl) rfl (Nat.le_refl _) rfl
  | cancels ht =>
    obtain ⟨turn, ht⟩ := Option.ne_none_iff_exists'.1 ht
    exact course_cancelled ht
  | decides _ => exact .continues hi
  | @decidesAll decision _ rest _ _ =>
    have hb : s.interrupt.Silent (s.bulkBegun rest ⟨0, rest.length + 1, decision⟩) :=
      silent_of_acts ((acts_tell _ _).of_outbox_eq rfl) rfl
    exact .continues (hi.silently hb rfl rfl rfl)
  | hydrates hc => exact .hydrates hc
  | shutsDown => exact (hi.setPhase .idle).rests

/-- Time does not go back. -/
theorem Course.now_le (h : s.Course origin i s') : s.now ≤ s'.now := by
  cases h with
  | rests _ _ hn _ => exact hn
  | turns _ hc =>
    rw [beginTurn_eq, openStream_eq]
    exact Nat.le_of_eq hc.now.symm
  | continues hc =>
    rw [beginContinuation_eq, openStream_eq]
    exact Nat.le_of_eq hc.now.symm
  | writes _ he => exact Nat.le_of_eq (continues_apply s he).now.symm
  | hydrates _ => exact Nat.le_refl _

theorem Coherent.now_le_run (h : s.Coherent) (inputs : List Input) : s.now ≤ (s.run inputs).now :=
  (run_induction (P := fun s' => s'.Coherent ∧ s.now ≤ s'.now) ⟨h, Nat.le_refl _⟩
    fun s' i _ ⟨hc, hn⟩ => ⟨hc.react i, hn.trans (hc.course (s'.reaction i)).now_le⟩).2

/-! ## A property of all messages -/

variable {W : Writing → Prop} {P : Message → Prop}

/-- Finalizing keeps what every message has. -/
theorem forall_messages_finalize {t : Transcript} (hl : t.Lasting) {now : Int}
    (hst : Message.Stable W now P) (hp : ∀ m ∈ t.messages, P m) (usage : Option Usage) :
    ∀ m ∈ (t.finalize usage).2.messages, P m := by
  cases hn : t.inProgress with
  | none =>
    rw [finalize_of_none hn]
    exact hp
  | some p =>
    rw [messages_of_some hn, List.forall_mem_append, List.forall_mem_singleton] at hp
    rw [hl.finalize_of_some hn, messages_of_none rfl, List.forall_mem_append,
      List.forall_mem_singleton]
    exact ⟨hp.1, hst.marked (hl.isAssistant p hn) hp.2 _ _⟩

theorem Clears.forall_messages (h : s.Clears e) (hl : s.transcript.Lasting) {now : Int}
    (hst : Message.Stable W now P) (hp : ∀ m ∈ s.transcript.messages, P m) :
    ∀ m ∈ e.transcript.messages, P m := by
  obtain ⟨usage, ht⟩ := h.transcript
  rw [ht]
  exact forall_messages_finalize hl hst hp usage

theorem messages_beginTurn (hp : s.transcript.inProgress = none) (content : String) :
    (s.beginTurn content).transcript.messages =
      s.transcript.messages ++ [s.inputMessage content] := by
  rw [transcript_beginTurn, messages_of_none (t := s.transcript.push _) hp, messages_of_none hp]
  rfl

/-- The message that is continued is marked as being written again. -/
theorem forall_messages_beginContinuation (hn : s.transcript.inProgress = none) {now : Int}
    (hst : Message.Stable W now P) (hp : ∀ m ∈ s.transcript.messages, P m) (callId : String)
    (decision : Decision) (reason : Option String) :
    ∀ m ∈ (s.beginContinuation callId decision reason).transcript.messages, P m := by
  rcases s.transcript_beginContinuation_cases callId decision reason with
    ⟨hx, _⟩ | ⟨before, m, hf, ha, hx⟩
  · rw [hx]
    exact hp
  · rw [messages_of_none hn, hf, List.forall_mem_append, List.forall_mem_singleton] at hp
    rw [hx, resume_of_none (t := { s.transcript with finalized := before }) hn,
      messages_of_some rfl, List.forall_mem_append, List.forall_mem_singleton]
    exact ⟨hp.1, hst.marked ha hp.2 true m.usage⟩

/-- The message under way is one of the session, or begins. -/
theorem underWay_of_forall (hl : s.transcript.Lasting) (hst : Message.Stable W s.now P)
    (hp : ∀ m ∈ s.transcript.messages, P m) :
    s.underWay.message.isAssistant = true ∧ P s.underWay.message := by
  rw [underWay]
  cases hn : s.transcript.inProgress with
  | none => exact ⟨rfl, hst.begun _⟩
  | some p =>
    refine ⟨hl.isAssistant p hn, hp _ ?_⟩
    rw [messages_of_some hn]
    exact List.mem_append_right _ List.mem_cons_self

theorem forall_messages_apply (hb : s.transcript.BelongsTo s.generation)
    (hl : s.transcript.Lasting) (hst : Message.Stable W s.now P)
    (hp : ∀ m ∈ s.transcript.messages, P m) {event : TurnEvent}
    (he : event.isTerminal = false) (hw : ∀ w ∈ event.writing?, W w) :
    ∀ m ∈ (s.apply event).transcript.messages, P m := by
  have hf : ∀ m ∈ s.transcript.finalized, P m := fun m hm => hp m (List.mem_append_left _ hm)
  cases inscribes_apply hb he with
  | nothing _ hx =>
    rw [hx]
    exact hp
  | @notes usage _ hx =>
    rw [hx]
    cases hn : s.transcript.inProgress with
    | none =>
      rw [noted_of_none hn]
      exact hp
    | some p =>
      rw [messages_of_some hn, List.forall_mem_append, List.forall_mem_singleton] at hp
      rw [noted_of_some hn, setCurrent_of_some hn, messages_of_some rfl, List.forall_mem_append,
        List.forall_mem_singleton]
      exact ⟨hf, hst.marked (hl.isAssistant p hn) hp.2 _ _⟩
  | @writes w ids hwr hx =>
    obtain ⟨ha, hu⟩ := underWay_of_forall hl hst hp
    rw [hx, messages_of_some rfl, List.forall_mem_append, List.forall_mem_singleton]
    exact ⟨hf, hst.written ha (hw w hwr) hu ids⟩

/-- A stable property of all messages is kept, if what an event writes may be written, and if
    the messages that are loaded have it. -/
theorem Course.forall_messages (h : s.Course origin i s') (hc : s.Coherent)
    (hl : s.transcript.Lasting) (hst : Message.Stable W s.now P)
    (hw : ∀ e, i = .event e → ∀ w ∈ e.event.writing?, W w)
    (hh : ∀ messages, i = .command (.hydrate messages) → ∀ m ∈ messages, P m.settled)
    (hp : ∀ m ∈ s.transcript.messages, P m) : ∀ m ∈ s'.transcript.messages, P m := by
  cases h with
  | rests _ _ _ ht =>
    rcases ht with ht | ⟨usage, ht⟩
    · rw [ht]
      exact hp
    · rw [ht]
      exact forall_messages_finalize hl hst hp usage
  | turns _ hcl =>
    rw [messages_beginTurn hcl.inProgress, List.forall_mem_append, List.forall_mem_singleton,
      inputMessage, hcl.now]
    exact ⟨hcl.forall_messages hl hst hp, hst.input _ _⟩
  | continues hcl =>
    exact forall_messages_beginContinuation hcl.inProgress hst (hcl.forall_messages hl hst hp) _ _ _
  | @writes e hlive he => exact forall_messages_apply hc.belongsTo hl hst hp he (hw e rfl)
  | @hydrates messages _ =>
    have hm : (s.hydrated messages).transcript.messages = messages.map .settled :=
      List.append_nil _
    rw [hm, List.forall_mem_map]
    exact hh messages rfl

/-- So it is kept by any inputs, if messages have it that begin at any time until then. -/
theorem forall_messages_run {inputs : List Input} (hc : s.Coherent) (hl : s.transcript.Lasting)
    (hst : ∀ now ≤ (s.run inputs).now, Message.Stable W now P)
    (hw : ∀ e, .event e ∈ inputs → ∀ w ∈ e.event.writing?, W w)
    (hh : ∀ messages, .command (.hydrate messages) ∈ inputs → ∀ m ∈ messages, P m.settled)
    (hp : ∀ m ∈ s.transcript.messages, P m) : ∀ m ∈ (s.run inputs).transcript.messages, P m := by
  induction inputs generalizing s with
  | nil => exact hp
  | cons i inputs ih =>
    have hcourse := hc.course (s.reaction i)
    have hn : s.now ≤ (s.run (i :: inputs)).now := hc.now_le_run (i :: inputs)
    refine ih (hc.react i) (hc.carries hl (s.reaction i)).lasting hst
      (fun e he => hw e (List.mem_cons_of_mem i he))
      (fun messages hm => hh messages (List.mem_cons_of_mem i hm)) ?_
    refine hcourse.forall_messages hc hl (hst _ hn) (fun e he => ?_) (fun messages hm => ?_) hp
    · exact hw e (he ▸ List.mem_cons_self)
    · exact hh messages (hm ▸ List.mem_cons_self)

end Session

end Dialogue
