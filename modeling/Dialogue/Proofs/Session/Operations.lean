import Dialogue.Proofs.Transcript
import Dialogue.Session.Command

/-!
# What the operations of a session do

Every operation is a few changes of the state together with effects added at the
end of the outbox. This file says so, one equation for each operation, so that
nothing later has to open their definitions.

* `openStream_eq`, `beginTurn_eq`: opening a stream;
* `finalizeCurrent_eq`, `interrupt_eq`, `complete_eq`, `fail_eq`: ending one;
* `drainQueue_cases`: starting queued input, if nothing stands in the way;
* `continues_apply`: an event that is not terminal leaves its stream as it is
  (`Continues`): it changes only what the stream writes, and all that it does to
  the outside is to tell.
-/

namespace Dialogue

/-! ## Effects -/

namespace Effect

/-- Telling updates. -/
def tellings (us : List Update) : List Effect :=
  us.map .told

theorem tellings_append (us vs : List Update) : tellings (us ++ vs) = tellings us ++ tellings vs :=
  List.map_append

theorem openings_append (as bs : List Effect) :
    openings (as ++ bs) = openings as ++ openings bs :=
  List.filterMap_append

end Effect

/-- What is told of a bulk decision when the call under way is done. -/
def BulkStep.updates : BulkStep → List Update
  | .next _ _ progress => [.approvalProgress (some progress)]
  | .finished progress => [.approvalProgress (some progress), .approvalProgress none]
  | .idle => []

namespace Session

open Effect

/-! ## Telling -/

theorem tell_eq (s : Session) (u : Update) :
    s.tell u = { s with outbox := s.outbox ++ tellings [u] } := rfl

theorem tellCurrent_eq (s : Session) :
    s.tellCurrent = { s with
      outbox := s.outbox ++ tellings (s.transcript.current?.toList.map .messageUpdated) } := by
  rw [tellCurrent]
  cases s.transcript.current? with
  | none => simp only [Option.toList_none, List.map_nil, tellings, List.append_nil]
  | some m => rfl

/-- What is told when a phase follows another. -/
def phaseUpdates (old new : Phase) : List Update :=
  if old = new then [] else [.stateChanged new]

theorem setPhase_eq (s : Session) (p : Phase) :
    s.setPhase p = { s with
      phase := p
      outbox := s.outbox ++ tellings (phaseUpdates s.phase p) } := by
  rw [setPhase, phaseUpdates]
  split
  · next h => rw [tellings, List.map_nil, List.append_nil, ← h]
  · rfl

/-! ## Opening streams -/

/-- The phase while a stream is open. -/
def servingPhase (s : Session) : Phase :=
  if s.approvals.isDraining then .drainingApprovals else .streaming

/-- The transcript once its last message, if one is given, goes on for a
    generation. -/
def resumedTranscript (s : Session) (generation : Nat) : Option Message → Transcript
  | some m => s.transcript.resume generation m
  | none => s.transcript

/-- Opening a stream takes the next generation and makes it that of the turn. -/
theorem openStream_eq (s : Session) (kind : TurnKind) (request : Request)
    (resumed : Option Message) :
    s.openStream kind request resumed = { s with
      generation := s.generation + 1
      usage := .empty
      throttle := s.throttle.reset
      lastError := none
      transcript := s.resumedTranscript (s.generation + 1) resumed
      turn := some {
        kind
        generation := s.generation + 1
        startedAt := s.now
        baseUsage := (resumed.bind (·.usage)).getD .empty }
      phase := s.servingPhase
      outbox := s.outbox ++
        (tellings (resumed.toList.map fun m => .messageUpdated { m with streaming := true }) ++
          .opened (s.generation + 1) request ::
            tellings (phaseUpdates s.phase s.servingPhase)) } := by
  cases resumed with
  | none =>
    rw [openStream, setPhase_eq]
    simp only [emit, Option.toList_none, List.map_nil, tellings, List.nil_append,
      List.append_assoc, List.cons_append]
    rfl
  | some m =>
    rw [openStream, setPhase_eq]
    simp only [emit, tellCurrent_eq, tellings, List.append_assoc, List.cons_append,
      List.nil_append]
    rfl

/-- The message that input becomes. -/
def inputMessage (s : Session) (content : String) : Message :=
  .ofUser s.ids.next content s.now

/-- The session with input added to its transcript. -/
def withInput (s : Session) (content : String) : Session :=
  { s with
    transcript := s.transcript.push (s.inputMessage content)
    ids := s.ids.advance
    outbox := s.outbox ++ tellings [.messageFinalized (s.inputMessage content)] }

/-- Beginning a turn adds the input to the transcript and asks for an answer to
    all of it. -/
theorem beginTurn_eq (s : Session) (content : String) :
    s.beginTurn content = (s.withInput content).openStream .newTurn
      (.newTurn s.conversationId (s.transcript.finalized ++ [s.inputMessage content])) none := rfl

/-- The request that reports a decision. -/
def decisionRequest (s : Session) (callId : String) (decision : Decision)
    (reason : Option String) : Request :=
  .approvalContinuation s.conversationId callId decision.isApprove reason

/-- The session without its last message, if that is to be continued. -/
def withoutResumed (s : Session) : Session :=
  { s with transcript := s.transcript.takeLastAssistant.2 }

/-- Beginning a continuation reports a decision and goes on with the last message
    if it is the assistant's. -/
theorem beginContinuation_eq (s : Session) (callId : String) (decision : Decision)
    (reason : Option String) :
    s.beginContinuation callId decision reason =
      s.withoutResumed.openStream .approvalContinuation (s.decisionRequest callId decision reason)
        s.transcript.takeLastAssistant.1 := rfl

/-- Nothing stands in the way of starting queued input. -/
structure CanDrain (s : Session) : Prop where
  idle : s.phase = .idle
  noTurn : s.turn = none
  free : s.queue.immediate = false

/-- The session with another queue, and that told. -/
def withQueue (s : Session) (q : InputQueue) : Session :=
  { s with queue := q, outbox := s.outbox ++ tellings [.queueChanged q.entries] }

/-- The session with its oldest queued input taken out. -/
def afterHead (s : Session) (rest : List QueuedInput) : Session :=
  s.withQueue { s.queue with entries := rest }

theorem drainQueue_of_not_canDrain {s : Session} (h : ¬s.CanDrain) : s.drainQueue = s := by
  rw [drainQueue]
  split
  · rfl
  · next hc =>
    -- The guard names the three things that stand in the way.
    refine absurd ⟨?_, ?_, ?_⟩ h
    · cases hp : s.phase <;> simp [Phase.isBusy, hp] at hc ⊢
    · cases ht : s.turn <;> simp [ht] at hc ⊢
    · cases hi : s.queue.immediate <;> simp [hi] at hc ⊢

theorem drainQueue_of_canDrain {s : Session} (h : s.CanDrain) :
    s.drainQueue = match s.queue.entries with
      | [] => s
      | entry :: rest => (s.afterHead rest).beginTurn entry.content := by
  rw [drainQueue, if_neg]
  · rw [InputQueue.popFront?]
    cases s.queue.entries <;> rfl
  · rw [h.idle, h.noTurn, h.free]
    decide

/-- Draining the queue does nothing, or starts its oldest entry. -/
theorem drainQueue_cases (s : Session) :
    (s.drainQueue = s ∧ (s.CanDrain → s.queue.entries = [])) ∨
      ∃ entry rest, s.CanDrain ∧ s.queue.entries = entry :: rest ∧
        s.drainQueue = (s.afterHead rest).beginTurn entry.content := by
  by_cases h : s.CanDrain
  · have hd := drainQueue_of_canDrain h
    cases hq : s.queue.entries with
    | nil => exact .inl ⟨by rw [hd, hq], fun _ => rfl⟩
    | cons entry rest => exact .inr ⟨entry, rest, h, rfl, by rw [hd, hq]⟩
  · exact .inl ⟨drainQueue_of_not_canDrain h, fun hc => absurd hc h⟩

/-! ## Ending streams -/

/-- What is told when the message in progress is finalized. -/
def finalUpdates (s : Session) (base : Usage) : List Update :=
  let (finished, transcript) := s.transcript.finalize (some (Usage.combine base s.usage))
  finished.toList.map .messageFinalized ++
    [.usageTick s.usage (sessionUsage { s with transcript })]

theorem finalizeCurrent_eq (s : Session) (base : Usage) :
    s.finalizeCurrent base = { s with
      transcript := (s.transcript.finalize (some (Usage.combine base s.usage))).2
      throttle := s.throttle.reset
      outbox := s.outbox ++ tellings (s.finalUpdates base) } := by
  rw [finalizeCurrent, finalUpdates]
  obtain ⟨finished, transcript⟩ := s.transcript.finalize (some (Usage.combine base s.usage))
  cases finished with
  | none => rfl
  | some m =>
    simp only [tellUsage, tell, emit, List.append_assoc]
    rfl

/-- What is told when a bulk decision is given up. -/
def abortUpdates (s : Session) : List Update :=
  if s.approvals.isDraining then [.approvalProgress none] else []

theorem abortApprovals_eq (s : Session) :
    s.abortApprovals = { s with
      approvals := {}
      outbox := s.outbox ++ tellings s.abortUpdates } := by
  rw [abortApprovals, abortUpdates, Coordinator.isDraining]
  cases hp : s.approvals.progress with
  | none => simp only [Coordinator.abort, hp, Option.isSome_none, Bool.false_eq_true, if_false,
      tellings, List.map_nil, List.append_nil]
  | some p => simp only [Coordinator.abort, hp, Option.isSome_some, if_true, tell_eq]

/-- Without a turn there is nothing to interrupt. -/
theorem interrupt_of_noTurn {s : Session} (h : s.turn = none) : s.interrupt = s := by
  rw [interrupt, h]

/-- What is told when a turn is interrupted. -/
def interruptUpdates (s : Session) (base : Usage) : List Update :=
  finalUpdates { s with turn := none } base ++ s.abortUpdates ++ [.turnFinished .cancelled]

/-- Interrupting gives up the stream before anything is told, and ends with no turn
    and no bulk decision, in a generation that no stream has. -/
theorem interrupt_eq {s : Session} {turn : ActiveTurn} (h : s.turn = some turn) :
    s.interrupt = { s with
      turn := none
      transcript := (s.transcript.finalize (some (Usage.combine turn.baseUsage s.usage))).2
      throttle := s.throttle.reset
      approvals := {}
      generation := s.generation + 1
      outbox := s.outbox ++
        .cancelled turn.generation :: (turn.runId.toList.map (.stopRequested s.conversationId) ++
          tellings (s.interruptUpdates turn.baseUsage)) } := by
  rw [interrupt, h]
  simp only [finalizeCurrent_eq, abortApprovals_eq]
  -- The server is asked to stop a run only if it accepted one.
  cases turn.runId with
  | none =>
    simp only [tell_eq, emit, interruptUpdates, tellings_append, List.append_assoc]
    rfl
  | some runId =>
    simp only [tell_eq, emit, interruptUpdates, tellings_append, List.append_assoc]
    rfl

/-- After interrupting there is no turn. -/
theorem turn_interrupt (s : Session) : s.interrupt.turn = none := by
  cases ht : s.turn with
  | none => rw [interrupt_of_noTurn ht, ht]
  | some turn => rw [interrupt_eq ht]

/-- Interrupting leaves the queue alone. -/
theorem queue_interrupt (s : Session) : s.interrupt.queue = s.queue := by
  cases ht : s.turn with
  | none => rw [interrupt_of_noTurn ht]
  | some turn => rw [interrupt_eq ht]

/-- The session when the stream of its turn has come to its own end, with the usage
    of the whole stream, the approvals that are left and what is told of them. -/
def ended (s : Session) (turn : ActiveTurn) (usage : Usage) (approvals : Coordinator)
    (us : List Update) : Session :=
  { s with
    turn := none
    usage
    transcript := (s.transcript.finalize (some (Usage.combine turn.baseUsage usage))).2
    throttle := s.throttle.reset
    approvals
    outbox := s.outbox ++
      tellings (finalUpdates { s with turn := none, usage } turn.baseUsage ++ us) }

/-- The usage of a stream that completes: with its response time, measured if the
    server gives none. -/
def completedUsage (s : Session) (turn : ActiveTurn) (time : Option Count) : Usage :=
  s.usage.merge (.ofResponse (time.getD (Count.ofNat (s.now - turn.startedAt))))

/-- The session idle after a turn, which is announced, before the queue is drained. -/
def rested (s : Session) (outcome : Outcome) : Session :=
  { s with
    phase := .idle
    outbox := s.outbox ++ tellings (.turnFinished outcome :: phaseUpdates s.phase .idle) }

theorem settle_eq (s : Session) (outcome : Outcome) :
    s.settle outcome = (s.rested outcome).drainQueue := by
  rw [settle, setPhase_eq, tell_eq]
  simp only [List.append_assoc]
  rfl

/-- The session when the stream of its turn has completed, and with it the call under
    way of a bulk decision. -/
def completed (s : Session) (turn : ActiveTurn) (time : Option Count) : Session :=
  s.ended turn (s.completedUsage turn time) s.approvals.complete.2 s.approvals.complete.1.updates

/-- A completed turn is followed by the next call of a bulk decision, and else the
    session rests. -/
theorem complete_eq {s : Session} {turn : ActiveTurn} (h : s.turn = some turn)
    (time : Option Count) :
    s.complete time = match s.approvals.complete.1 with
      | .next callId decision _ => (s.completed turn time).beginContinuation callId decision none
      | _ => (s.completed turn time).releaseImmediate.settle .completed := by
  rw [complete, h]
  simp only [finalizeCurrent_eq, tell_eq, completed, ended, tellings_append, List.append_assoc]
  obtain ⟨step, approvals⟩ := s.approvals.complete
  cases step with
  | next callId decision progress => rfl
  | finished progress => rfl
  | idle =>
    simp only [BulkStep.updates, tellings, List.map_nil, List.append_nil]
    rfl

/-- The session when the stream of its turn has failed, and with it a bulk decision. -/
def failed (s : Session) (turn : ActiveTurn) (message : String) : Session :=
  { (s.ended turn s.usage {} s.abortUpdates).releaseImmediate with lastError := some message }

theorem fail_eq {s : Session} {turn : ActiveTurn} (h : s.turn = some turn) (message : String) :
    s.fail message = (s.failed turn message).settle (.failed message) := by
  rw [fail, h]
  simp only [finalizeCurrent_eq, abortApprovals_eq, failed, ended, tellings_append,
    List.append_assoc]
  rfl

/-! ## Events that are not terminal -/

/-- The transcript with the account, a report included, noted on the message in
    progress. -/
def accountedTranscript (s : Session) (delta : Usage) : Transcript :=
  match s.transcript.currentOf? s.generation with
  | some m =>
    s.transcript.setCurrent { m with
      usage := some (inFlightUsage { s with usage := s.usage.merge delta }) }
  | none => s.transcript

/-- The session with a report accounted, before anything is told of it. -/
def accounted (s : Session) (delta : Usage) : Session :=
  { s with
    usage := s.usage.merge delta
    transcript := s.accountedTranscript delta
    throttle := (s.throttle.ask s.now).2 }

theorem recordUsage_eq (s : Session) (delta : Usage) :
    s.recordUsage delta = { s.accounted delta with
      outbox := s.outbox ++ tellings (if (s.throttle.ask s.now).1 then
        [.usageTick (s.accounted delta).usage (s.accounted delta).sessionUsage] else []) } := by
  rw [recordUsage, accounted, accountedTranscript]
  cases s.transcript.currentOf? s.generation with
  | none =>
    simp only
    split
    · rfl
    · rw [tellings, List.map_nil, List.append_nil]
  | some m =>
    simp only
    split
    · rfl
    · rw [tellings, List.map_nil, List.append_nil]

/-- One session is another one later in the same stream: what only commands and the
    end of a stream change is the same, and all that was done is to tell. -/
structure Continues (s s' : Session) : Prop where
  conversationId : s'.conversationId = s.conversationId
  phase : s'.phase = s.phase
  generation : s'.generation = s.generation
  approvals : s'.approvals = s.approvals
  queue : s'.queue = s.queue
  lastError : s'.lastError = s.lastError
  now : s'.now = s.now
  turn : ∃ runId, s'.turn = s.turn.map ({ · with runId })
  ids : s.ids.IsPrefixOf s'.ids
  told : ∃ us, s'.outbox = s.outbox ++ tellings us

variable {s s' s'' : Session}

theorem Continues.refl (s : Session) : s.Continues s where
  conversationId := rfl
  phase := rfl
  generation := rfl
  approvals := rfl
  queue := rfl
  lastError := rfl
  now := rfl
  turn := ⟨s.runId?, by cases h : s.turn <;> simp [runId?, h]⟩
  ids := .refl _
  told := ⟨[], by rw [tellings, List.map_nil, List.append_nil]⟩

theorem Continues.trans (h : s.Continues s') (h' : s'.Continues s'') : s.Continues s'' where
  conversationId := h'.conversationId.trans h.conversationId
  phase := h'.phase.trans h.phase
  generation := h'.generation.trans h.generation
  approvals := h'.approvals.trans h.approvals
  queue := h'.queue.trans h.queue
  lastError := h'.lastError.trans h.lastError
  now := h'.now.trans h.now
  turn := by
    obtain ⟨runId, ht⟩ := h.turn
    obtain ⟨runId', ht'⟩ := h'.turn
    exact ⟨runId', by rw [ht', ht, Option.map_map]; rfl⟩
  ids := h.ids.trans h'.ids
  told := by
    obtain ⟨us, hu⟩ := h.told
    obtain ⟨us', hu'⟩ := h'.told
    exact ⟨us ++ us', by rw [hu', hu, tellings_append, List.append_assoc]⟩

/-- What a stream writes to: the transcript, its account, and identifiers. -/
theorem continues_write (s : Session) (transcript : Transcript) (usage : Usage)
    (throttle : Throttle) {ids : Ids} (h : s.ids.IsPrefixOf ids) :
    s.Continues { s with transcript, usage, throttle, ids } :=
  { Continues.refl s with ids := h }

theorem continues_tellCurrent (s : Session) : s.Continues s.tellCurrent := by
  rw [tellCurrent_eq]
  exact { Continues.refl s with told := ⟨_, rfl⟩ }

theorem continues_updateCurrent (s : Session) (m : Message) : s.Continues (s.updateCurrent m) :=
  (s.continues_write _ _ _ (.refl _)).trans (continues_tellCurrent _)

theorem continues_ensureCurrent (s : Session) : s.Continues s.ensureCurrent.2 :=
  s.continues_write _ _ _ (Transcript.isPrefixOf_ensureCurrent _ _ _ _)

theorem continues_appendText (s : Session) (text : String) : s.Continues (s.appendText text) := by
  rw [appendText]
  split
  · exact .refl s
  · exact (continues_ensureCurrent s).trans ((continues_write _ _ _ _
      (Message.isPrefixOf_appendText _ _ _)).trans (continues_updateCurrent _ _))

theorem continues_applyPending (s : Session) (us : List ToolUpdate) :
    s.Continues (s.applyPending us) := by
  rw [applyPending]
  split
  · exact .refl s
  · refine (continues_ensureCurrent s).trans ?_
    simp only
    split
    · exact continues_updateCurrent _ _
    · exact .refl _

theorem continues_applyTool (s : Session) (kind : ToolEvent) (u : ToolUpdate) :
    s.Continues (s.applyTool kind u) := by
  rw [applyTool]
  split
  · refine (continues_ensureCurrent s).trans ?_
    simp only
    split
    · exact continues_updateCurrent _ _
    · exact .refl _
  · split
    · exact .refl s
    · simp only
      split
      · exact continues_updateCurrent _ _
      · exact .refl s

theorem continues_recordUsage (s : Session) (delta : Usage) :
    s.Continues (s.recordUsage delta) := by
  rw [recordUsage_eq]
  exact { Continues.refl s with told := ⟨_, rfl⟩ }

theorem continues_accept (s : Session) (runId : String) : s.Continues (s.accept runId) :=
  { Continues.refl s with turn := ⟨some runId, rfl⟩ }

/-- An event that is not terminal leaves its stream as it is. -/
theorem continues_apply (s : Session) {e : TurnEvent} (h : e.isTerminal = false) :
    s.Continues (s.apply e) := by
  cases e with
  | ready runId => exact continues_accept s runId
  | token text => exact continues_appendText s text
  | toolsPending us => exact continues_applyPending s us
  | tool kind u => exact continues_applyTool s kind u
  | usage report source =>
    rw [apply]
    split
    · exact continues_recordUsage s report
    · exact .refl s
  | firstToken time => exact continues_recordUsage s _
  | completed time => exact absurd h Bool.noConfusion
  | error message => exact absurd h Bool.noConfusion

end Session
end Dialogue
