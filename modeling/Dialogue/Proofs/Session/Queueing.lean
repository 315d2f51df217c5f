import Dialogue.Proofs.Session.InputLog
import Dialogue.Proofs.Session.Reaction

/-!
# Queued input is kept

Whatever the inputs, no queued input is lost, sent twice or overtaken: the log of
what became of input keeps the queue (`Session.Filed`), and the turns that it
speaks of are those that were asked for.

An operation that asks about nothing is `Silent`. What a session does about input
is to be silent for a while, and then to start at most one turn:

* `Filed.passes_silent`: being silent keeps the log, if the queue is left alone;
* `Filed.passes_beginTurn`, `Filed.passes_drainQueue`: a turn is logged with where its
  input came from;
* `queued_input_kept`: so every entry is in one place, in order, after any inputs.
-/

namespace Dialogue

namespace Effect

theorem turnRequests_append (as bs : List Effect) :
    turnRequests (as ++ bs) = turnRequests as ++ turnRequests bs :=
  List.filterMap_append

/-- Telling is no request. -/
theorem turnRequests_acts (es : List Effect) : turnRequests (acts es) = turnRequests es := by
  rw [turnRequests, acts, List.filterMap_filter, turnRequests]
  congr 1
  funext e
  cases e <;> rfl

end Effect

namespace Session

open Effect InputLog

variable {s e s' s'' : Session} {log : List InputMark}

theorem turnRequests_interruptActs (s : Session) : turnRequests s.interruptActs = [] := by
  rw [interruptActs]
  cases s.turn with
  | none => rfl
  | some turn =>
    obtain ⟨_, _, runId, _, _⟩ := turn
    cases runId <;> rfl

/-- A log accounts for the input of a session: it keeps the queue, what was accepted
    has identifiers that were handed out, and turns were asked for as it says, each
    about its own input. -/
structure Filed (s : Session) (log : List InputMark) : Prop where
  keeps : Keeps log s.queue.entries
  fresh : s.ids.IsFresh
  named : ∀ entry ∈ accepted log, ∃ k < s.ids.used, s.ids.name k = entry.id
  about : ∀ a ∈ asked log, AsksAbout a.2 a.1.content
  requests : (asked log).map (·.2) = turnRequests s.outbox

/-- From one session to another nothing was asked about, and identifiers were at most
    handed out. -/
structure Silent (s s' : Session) : Prop where
  ids : s.ids.IsPrefixOf s'.ids
  asks : ∃ as, s.Acts s' as ∧ turnRequests as = []

/-- What is done from one session to another continues the log of the one to a log of
    the other, with turns whose input has the origin given. -/
def Passes (s : Session) (log : List InputMark) (origin : Option Origin) (s' : Session) : Prop :=
  ∃ as, s.Acts s' as ∧ s'.Filed (log ++ InputMark.ofRequests origin (turnRequests as))

/-! ## Silence -/

theorem silent_of_acts (ha : s.Acts s' []) (hi : s'.ids = s.ids) : s.Silent s' :=
  ⟨hi ▸ .refl _, [], ha, rfl⟩

theorem silent_of_outbox_eq (ho : s'.outbox = s.outbox) (hi : s'.ids = s.ids) : s.Silent s' :=
  silent_of_acts (acts_of_outbox_eq ho) hi

theorem Silent.refl (s : Session) : s.Silent s :=
  silent_of_outbox_eq rfl rfl

theorem Silent.trans (h : s.Silent s') (h' : s'.Silent s'') : s.Silent s'' := by
  obtain ⟨as, ha, hn⟩ := h.asks
  obtain ⟨bs, hb, hn'⟩ := h'.asks
  exact ⟨h.ids.trans h'.ids, as ++ bs, ha.trans hb, by rw [turnRequests_append, hn, hn']; rfl⟩

theorem Continues.silent (h : s.Continues s') : s.Silent s' :=
  ⟨h.ids, [], h.acts, rfl⟩

theorem silent_interrupt (s : Session) : s.Silent s.interrupt := by
  refine ⟨?_, s.interruptActs, acts_interrupt s, turnRequests_interruptActs s⟩
  cases ht : s.turn with
  | none => rw [interrupt_of_noTurn ht]; exact .refl _
  | some turn => rw [interrupt_eq ht]; exact .refl _

theorem silent_setPhase (s : Session) (p : Phase) : s.Silent (s.setPhase p) := by
  refine silent_of_acts (acts_setPhase s p) ?_
  rw [setPhase_eq]

theorem silent_releaseImmediate (s : Session) : s.Silent s.releaseImmediate :=
  silent_of_outbox_eq rfl rfl

theorem acts_withQueue (s : Session) (q : InputQueue) : s.Acts (s.withQueue q) [] :=
  acts_of_tellings rfl

theorem acts_withQueued (s : Session) (content : String) : s.Acts (s.withQueued content) [] :=
  acts_of_tellings rfl

theorem silent_withQueue (s : Session) (q : InputQueue) : s.Silent (s.withQueue q) :=
  silent_of_acts (acts_withQueue s q) rfl

theorem silent_beginContinuation (s : Session) (callId : String) (decision : Decision)
    (reason : Option String) : s.Silent (s.beginContinuation callId decision reason) := by
  refine ⟨?_, _, acts_beginContinuation s callId decision reason, rfl⟩
  rw [beginContinuation_eq, openStream_eq]
  exact .refl _

/-! ## The queue -/

theorem queue_setPhase (s : Session) (p : Phase) : (s.setPhase p).queue = s.queue := by
  rw [setPhase_eq]

/-! ## Passing on the log -/

theorem Acts.turnRequests {as : List Effect} (h : s.Acts s' as) :
    turnRequests s'.outbox = turnRequests s.outbox ++ turnRequests as := by
  obtain ⟨es, ho, rfl⟩ := h
  rw [ho, turnRequests_append, turnRequests_acts]

/-- Identifiers that were handed out stay so. -/
theorem Filed.named_of_isPrefixOf (h : s.Filed log) {ids : Ids} (hi : s.ids.IsPrefixOf ids) :
    ∀ entry ∈ accepted log, ∃ k < ids.used, ids.name k = entry.id := by
  intro entry he
  obtain ⟨k, hk, hn⟩ := h.named entry he
  exact ⟨k, Nat.lt_of_lt_of_le hk hi.used, by rw [hi.name, hn]⟩

theorem Filed.fresh_of_isPrefixOf (h : s.Filed log) {ids : Ids} (hi : s.ids.IsPrefixOf ids) :
    ids.IsFresh := by
  rw [Ids.IsFresh, hi.name]
  exact h.fresh

/-- Being silent keeps the log, if the queue is left alone. -/
theorem Filed.passes_silent (h : s.Filed log) (hs : s.Silent s')
    (hq : s'.queue.entries = s.queue.entries) (origin : Option Origin) :
    s.Passes log origin s' := by
  obtain ⟨as, ha, hn⟩ := hs.asks
  refine ⟨as, ha, ?_⟩
  rw [hn, InputMark.ofRequests, List.filterMap_nil, List.append_nil]
  exact {
    keeps := hq ▸ h.keeps
    fresh := h.fresh_of_isPrefixOf hs.ids
    named := h.named_of_isPrefixOf hs.ids
    about := h.about
    requests := by rw [ha.turnRequests, hn, List.append_nil, h.requests] }

/-- A continuation asks about no text, and leaves the queue alone. -/
theorem Filed.passes_beginContinuation (h : s.Filed log) (hs : s.Silent e)
    (hq : e.queue.entries = s.queue.entries) (callId : String) (decision : Decision)
    (reason : Option String) (origin : Option Origin) :
    s.Passes log origin (e.beginContinuation callId decision reason) := by
  refine h.passes_silent (hs.trans (e.silent_beginContinuation callId decision reason)) ?_ origin
  rw [beginContinuation_eq, openStream_eq]
  exact hq

/-- The request of a turn ends with its input. -/
theorem asksAbout_inputMessage (s : Session) (content : String) :
    AsksAbout (s.transcript.finalized ++ [s.inputMessage content]) content :=
  ⟨s.inputMessage content, List.getLast?_concat, rfl, rfl⟩

/-- A turn is logged with where its input came from, if that is what the queue lost. -/
theorem Filed.passes_beginTurn (h : s.Filed log) (hs : s.Silent e) (origin : Origin)
    (hk : ∀ messages, Keeps (log ++ [.asked origin messages]) e.queue.entries) :
    s.Passes log (some origin) (e.beginTurn origin.content) := by
  obtain ⟨as, ha, hn⟩ := hs.asks
  have ha := ha.trans (acts_beginTurn e origin.content)
  have hr : Effect.turnRequests
        (as ++ [.opened (e.generation + 1) (e.turnRequest origin.content)]) =
      [e.transcript.finalized ++ [e.inputMessage origin.content]] := by
    rw [turnRequests_append, hn]
    rfl
  have hi : s.ids.IsPrefixOf (e.beginTurn origin.content).ids := by
    rw [beginTurn_eq, openStream_eq]
    exact hs.ids.trans e.ids.isPrefixOf_advance
  have hq : (e.beginTurn origin.content).queue = e.queue := by
    rw [beginTurn_eq, openStream_eq]
    rfl
  refine ⟨_, ha, ?_⟩
  rw [hr, InputMark.ofRequests_singleton]
  exact {
    keeps := hq ▸ hk _
    fresh := h.fresh_of_isPrefixOf hi
    named := by
      rw [accepted_concat rfl]
      exact h.named_of_isPrefixOf hi
    about := fun a ha => by
      rw [asked_append] at ha
      rcases List.mem_append.1 ha with ha | ha
      · exact h.about a ha
      · rw [List.mem_singleton.1 ha]
        exact e.asksAbout_inputMessage origin.content
    requests := by
      rw [asked_append, List.map_append, ha.turnRequests, hr, h.requests]
      rfl }

/-- If draining the queue starts a turn, it is about the oldest entry. -/
theorem Filed.passes_drainQueue (h : s.Filed log) (hs : s.Silent e)
    (hq : e.queue.entries = s.queue.entries) :
    s.Passes log (s.queue.entries.head?.map .drained) e.drainQueue := by
  rcases e.drainQueue_cases with ⟨hd, _⟩ | ⟨entry, rest, _, he, hd⟩
  · rw [hd]
    exact h.passes_silent hs hq _
  · -- What the log keeps is the oldest entry in front of the rest.
    have hk := h.keeps
    rw [← hq, he] at hk
    rw [hd, ← hq, he]
    exact h.passes_beginTurn (hs.trans (e.silent_withQueue _)) (.drained entry) fun _ => hk.drained

theorem Filed.passes_settle (h : s.Filed log) (hs : s.Silent e)
    (hq : e.queue.entries = s.queue.entries) (outcome : Outcome) :
    s.Passes log (s.queue.entries.head?.map .drained) (e.settle outcome) := by
  rw [settle_eq]
  exact h.passes_drainQueue (hs.trans (silent_of_acts (acts_of_tellings rfl) rfl)) hq

theorem Filed.passes_complete (h : s.Filed log) {turn : ActiveTurn} (ht : s.turn = some turn)
    (time : Option Count) :
    s.Passes log (s.queue.entries.head?.map .drained) (s.complete time) := by
  have hs : s.Silent (s.completed turn time) := silent_of_acts (acts_of_tellings rfl) rfl
  have hr := hs.trans (silent_releaseImmediate _)
  rw [complete_eq ht]
  cases s.approvals.complete.1 with
  | next callId decision progress =>
    exact h.passes_beginContinuation hs rfl callId decision none _
  | finished progress => exact h.passes_settle hr rfl _
  | idle => exact h.passes_settle hr rfl _

theorem Filed.passes_fail (h : s.Filed log) {turn : ActiveTurn} (ht : s.turn = some turn)
    (message : String) :
    s.Passes log (s.queue.entries.head?.map .drained) (s.fail message) := by
  have hs : s.Silent (s.failed turn message) := silent_of_acts (acts_of_tellings rfl) rfl
  rw [fail_eq ht]
  exact h.passes_settle hs rfl _

/-- Accepted input has an identifier of its own, and goes to the end of the queue. -/
theorem Filed.withQueued (h : s.Filed log) (content : String) :
    (s.withQueued content).Filed (log ++ [.accepted (s.queuedInput content)]) where
  keeps := by
    -- The identifier has a number that no entry before it has.
    refine h.keeps.accepted fun he => ?_
    obtain ⟨k, hk, hn⟩ := h.named _ he
    exact Nat.ne_of_lt hk (h.fresh k s.ids.used hn)
  fresh := h.fresh_of_isPrefixOf s.ids.isPrefixOf_advance
  named entry he := by
    rw [accepted_append] at he
    rcases List.mem_append.1 he with he | he
    · exact h.named_of_isPrefixOf s.ids.isPrefixOf_advance entry he
    · rw [List.mem_singleton.1 he]
      exact ⟨s.ids.used, Nat.lt_succ_self _, rfl⟩
  about := by
    rw [asked_concat rfl]
    exact h.about
  requests := by
    rw [asked_concat rfl, (acts_withQueued s content).turnRequests, h.requests]
    exact (List.append_nil _).symm

/-- An entry that a caller takes back is logged as that. -/
theorem Filed.withoutEntry (h : s.Filed log) {entry : QueuedInput}
    {before after : List QueuedInput} (hq : s.queue.entries = before ++ entry :: after) :
    (s.withQueue { s.queue with entries := before ++ after }).Filed
      (log ++ [.removed entry]) where
  keeps := by
    have hk := h.keeps
    rw [hq] at hk
    exact hk.removed
  fresh := h.fresh
  named := by
    rw [accepted_concat rfl]
    exact h.named
  about := by
    rw [asked_concat rfl]
    exact h.about
  requests := by
    rw [asked_concat rfl, (acts_withQueue s _).turnRequests, h.requests]
    exact (List.append_nil _).symm

/-! ## Every input -/

/-- What an input did is logged with its reply first. -/
def Files (s : Session) (log : List InputMark) (i : Input) (r : Option (Except Error Reply))
    (s' : Session) : Prop :=
  ∃ as, s.Acts s' as ∧ s'.Filed (log ++
    (InputMark.ofReply r ++ InputMark.ofRequests (s.origin? i r) (turnRequests as)))

/-- A reply that is not about queued input adds nothing. -/
theorem Passes.files {i : Input} {r : Option (Except Error Reply)}
    (h : s.Passes log (s.origin? i r) s') (hr : InputMark.ofReply r = []) :
    s.Files log i r s' := by
  obtain ⟨as, ha, hf⟩ := h
  exact ⟨as, ha, by rwa [hr, List.nil_append]⟩

/-- What is done once input was accepted is logged after that. -/
theorem Filed.files_queued (h : s.Filed log) {content : String}
    (hb : s.phase ≠ .idle ∨ s.queue.entries ≠ []) :
    s.Files log (.command (.submit content))
      (some (.ok (.submitted (.queued (s.queuedInput content)))))
      (s.withQueued content).drainQueue := by
  have hf := h.withQueued content
  have hp : (s.withQueued content).Passes (log ++ [.accepted (s.queuedInput content)])
      (s.queue.entries.head?.map .drained) (s.withQueued content).drainQueue := by
    by_cases he : s.queue.entries = []
    · -- The session is not idle, so nothing is drained.
      have hn : ¬(s.withQueued content).CanDrain := fun hc =>
        hb.elim (fun hp => hp hc.idle) (fun hn => hn he)
      rw [drainQueue_of_not_canDrain hn]
      exact hf.passes_silent (.refl _) rfl _
    · -- The oldest entry is one that was queued before.
      have hh : (s.withQueued content).queue.entries.head? = s.queue.entries.head? := by
        obtain ⟨entry, rest, he⟩ := List.exists_cons_of_ne_nil he
        rw [show (s.withQueued content).queue.entries = s.queue.entries ++ [_] from rfl, he]
        rfl
      rw [← hh]
      exact hf.passes_drainQueue (.refl _) rfl
  obtain ⟨as, ha, hl⟩ := hp
  refine ⟨as, (acts_withQueued s content).trans ha, ?_⟩
  rwa [List.append_assoc] at hl

/-- The entry that starts out of order is the one that was asked for. -/
theorem origin?_submitNow {id : String} {entry : QueuedInput} {before after : List QueuedInput}
    (hq : s.queue.entries = before ++ entry :: after) (hid : entry.id = id)
    (hb : ∀ e ∈ before, e.id ≠ id) (r : Option (Except Error Reply)) :
    s.origin? (.command (.submitNow id)) r = some (.pulled entry) := by
  have hn : before.find? (·.id == id) = none :=
    List.find?_eq_none.2 fun e he h => hb e he (beq_iff_eq.1 h)
  have hf : (entry :: after).find? (·.id == id) = some entry :=
    List.find?_cons_of_pos (beq_iff_eq.2 hid)
  rw [origin?, hq, List.find?_append, hn, Option.none_or, hf]
  rfl

/-- Every way of taking an input continues the log. -/
theorem Filed.reaction (h : s.Filed log) {i : Input} {r : Option (Except Error Reply)}
    (hr : s.Reaction i r s') : s.Files log i r s' := by
  cases hr with
  | refuses _ => exact Passes.files (h.passes_silent (.refl s) rfl _) rfl
  | ignores hi =>
    refine Passes.files (h.passes_silent (.refl s) rfl _) ?_
    cases hi <;> rfl
  | @waits time =>
    have hs : s.Silent (s.elapse time) := silent_of_outbox_eq rfl rfl
    exact Passes.files (h.passes_silent hs rfl _) rfl
  | writes _ he =>
    have hw := continues_apply s he
    exact Passes.files (h.passes_silent hw.silent (by rw [hw.queue]) _) rfl
  | completes hl =>
    obtain ⟨_, turn, ht⟩ := (s.isLive_iff _).1 hl
    exact (h.passes_complete ht _).files rfl
  | fails hl =>
    obtain ⟨_, turn, ht⟩ := (s.isLive_iff _).1 hl
    exact (h.passes_fail ht _).files rfl
  | @starts content _ _ _ =>
    have hp := h.passes_beginTurn (.refl s) (.direct content) fun _ => h.keeps.direct
    exact hp.files rfl
  | queues _ hb => exact h.files_queued hb
  | @restarts content _ =>
    have hs := s.silent_interrupt.trans s.interrupt.silent_releaseImmediate
    have hk (messages : List Message) :
        Keeps (log ++ [.asked (.direct content) messages]) s.interrupt.queue.entries := by
      rw [queue_interrupt]
      exact h.keeps.direct
    exact (h.passes_beginTurn hs (.direct content) hk).files rfl
  | @pulls id entry before after _ hq hid hb =>
    -- The entry is out of the queue before the turn is interrupted.
    have hs := (s.silent_withQueue ⟨before ++ after, true⟩).trans (silent_interrupt _)
    have hk (messages : List Message) : Keeps (log ++ [.asked (.pulled entry) messages])
        (s.withQueue ⟨before ++ after, true⟩).interrupt.queue.entries := by
      have hk := h.keeps
      rw [hq] at hk
      rw [queue_interrupt]
      exact hk.pulled
    have hp := h.passes_beginTurn hs (.pulled entry) hk
    rw [← origin?_submitNow hq hid hb (some (.ok .done))] at hp
    exact hp.files rfl
  | removes hq _ _ => exact ⟨[], acts_withQueue s _, h.withoutEntry hq⟩
  | restsOn _ =>
    have hs : s.Silent { s.releaseImmediate with
        approvals := {}, outbox := s.outbox ++ tellings s.releaseImmediate.abortUpdates } :=
      silent_of_acts (acts_of_tellings rfl) rfl
    rw [abortApprovals_eq]
    exact Passes.files (h.passes_silent hs rfl _) rfl
  | cancels _ =>
    have hs := (s.silent_releaseImmediate.trans (silent_setPhase _ .cancelling)).trans
      (silent_interrupt _)
    -- Nothing that is done before the queue is drained changes its entries.
    have hq : (s.cancelled.setPhase .idle).queue.entries = s.queue.entries := by
      rw [queue_setPhase, cancelled, queue_interrupt, queue_setPhase]
      rfl
    exact (h.passes_drainQueue (hs.trans (silent_setPhase _ .idle)) hq).files rfl
  | decides _ =>
    have hq : s.interrupt.queue.entries = s.queue.entries := by rw [queue_interrupt]
    exact Passes.files (h.passes_beginContinuation s.silent_interrupt hq _ _ _ _) rfl
  | @decidesAll decision _ rest _ _ =>
    have hb : s.interrupt.Silent (s.bulkBegun rest ⟨0, rest.length + 1, decision⟩) :=
      silent_of_acts ((acts_tell _ _).of_outbox_eq rfl) rfl
    have hq : (s.bulkBegun rest ⟨0, rest.length + 1, decision⟩).queue.entries =
        s.queue.entries :=
      congrArg InputQueue.entries s.queue_interrupt
    exact Passes.files (h.passes_beginContinuation (s.silent_interrupt.trans hb) hq _ _ _ _) rfl
  | @hydrates messages _ =>
    have hs : s.Silent (s.hydrated messages) := silent_of_acts (acts_of_tellings rfl) rfl
    exact Passes.files (h.passes_silent hs rfl _) rfl
  | shutsDown =>
    have hs := s.silent_interrupt.trans (s.interrupt.silent_setPhase .idle)
    exact Passes.files (h.passes_silent hs (by rw [queue_setPhase, queue_interrupt]) _) rfl

theorem Filed.react {h : List Transition} (hs : s.Filed (h.flatMap Transition.inputMarks))
    (i : Input) : (s.react i).2.Filed ((h ++ [s.transition i]).flatMap Transition.inputMarks) := by
  obtain ⟨as, ha, hf⟩ := hs.reaction (s.reaction i)
  obtain ⟨_, rfl⟩ := ha.effects
  rw [turnRequests_acts] at hf
  rw [List.flatMap_append, List.flatMap_singleton]
  exact hf

theorem filed_run (conversationId : String) (interval now : Nat) {ids : Ids} (hf : ids.IsFresh)
    (inputs : List Input) :
    ((start conversationId interval now ids).run inputs).Filed
      ((start conversationId interval now ids).inputLog inputs) := by
  have hs : (start conversationId interval now ids).Filed [] := {
    keeps := .start
    fresh := hf
    named := fun _ he => absurd he List.not_mem_nil
    about := fun _ ha => absurd ha List.not_mem_nil
    requests := rfl }
  exact history_induction (P := fun h s => s.Filed (h.flatMap Transition.inputMarks)) hs
    fun _ _ i _ hs => hs.react i

/-- No queued input is lost, sent twice or overtaken, whatever the inputs, if identifiers
    are fresh. An entry is accepted once at most, and then it is in one place: still
    queued, handed back once, or sent once. What is sent is the last message of the
    request, from the user and with the same text, and the requests are those that
    were made. The entries drained from the queue, in order, and those still in it are
    in the order in which they were accepted. -/
theorem queued_input_kept (conversationId : String) (interval now : Nat) (ids : Ids)
    (hf : ids.IsFresh) (inputs : List Input) :
    let s := (start conversationId interval now ids).run inputs
    let log := (start conversationId interval now ids).inputLog inputs
    (accepted log).Nodup ∧
      (∀ entry, s.queue.entries.count entry + (removed log).count entry + (sent log).count entry =
        if entry ∈ accepted log then 1 else 0) ∧
      (∀ a ∈ asked log, AsksAbout a.2 a.1.content) ∧
      (asked log).map (·.2) = turnRequests s.outbox ∧
      (drained log ++ s.queue.entries).Sublist (accepted log) := by
  intro s log
  have h : s.Filed log := filed_run conversationId interval now hf inputs
  refine ⟨h.keeps.nodup, fun entry => ?_, h.about, h.requests, h.keeps.sublist⟩
  rw [← h.keeps.count_eq, h.keeps.nodup.count]

/-- Input that was queued during a turn is sent when that completes. -/
theorem queued_input_kept_completed :
    let ids : Ids := ⟨fun n => String.ofList (List.replicate n 'i'), 0⟩
    let inputs : List Input :=
      [.command (.submit "first"), .command (.submit "second"), .event ⟨1, .completed none⟩]
    let s := (start "c" 100 0 ids).run inputs
    let log := (start "c" 100 0 ids).inputLog inputs
    ids.IsFresh ∧ s.queue.entries.count ⟨"i", "second", 0⟩ +
      (removed log).count ⟨"i", "second", 0⟩ + (sent log).count ⟨"i", "second", 0⟩ = 1 := by
  intro ids inputs s log
  have hf : ids.IsFresh := by
    intro i j h
    have hl := congrArg String.length h
    simpa [ids, String.length_ofList] using hl
  have ha : (⟨"i", "second", 0⟩ : QueuedInput) ∈ accepted log := by decide
  refine ⟨hf, ?_⟩
  rw [(queued_input_kept "c" 100 0 ids hf inputs).2.1, if_pos ha]

end Session

end Dialogue
