import Dialogue.Proofs.Session.History
import Dialogue.Proofs.Session.Reaction

/-!
# Coherence of a session

The phase, the turn, the bulk decision, the message in progress and the
generation are kept apart, and say the same thing (`Session.Coherent`): a session
is idle exactly if it has no turn, it is draining approvals exactly if a bulk
decision runs, and the message in progress is written by the stream of the turn.

In the middle of an operation they disagree. What holds there, between the end of
one stream and the opening of the next, is that nothing is being written
(`Session.Quiet`):

* `Coherent.interrupt`, `Coherent.completed`, `Coherent.failed`: the end of a stream
  makes a coherent session quiet;
* `Quiet.openStream`, `Quiet.settle`: opening a stream makes a quiet session
  coherent, and so does coming to rest;
* `Coherent.react`, `coherent_of_reachable`: so every input keeps a session
  coherent, and every session that some inputs lead to is.
-/

namespace Dialogue

namespace Session

variable {s : Session}

/-- The parts of a session say the same thing. -/
structure Coherent (s : Session) : Prop where
  phase_ne : s.phase ≠ .cancelling
  idle_iff : s.phase = .idle ↔ s.turn = none
  draining_iff : s.phase = .drainingApprovals ↔ s.approvals.progress ≠ none
  generation : ∀ turn ∈ s.turn, turn.generation = s.generation
  turn_ne : s.transcript.inProgress ≠ none → s.turn ≠ none
  belongsTo : s.transcript.BelongsTo s.generation
  marked : s.transcript.Marked

/-- No stream is open, and nothing is being written. -/
structure Quiet (s : Session) : Prop where
  turn : s.turn = none
  inProgress : s.transcript.inProgress = none
  marked : s.transcript.Marked

theorem coherent_start (conversationId : String) (interval now : Nat) (ids : Ids) :
    Coherent (start conversationId interval now ids) where
  phase_ne := Phase.noConfusion
  idle_iff := ⟨fun _ => rfl, fun _ => rfl⟩
  draining_iff := ⟨Phase.noConfusion, fun h => absurd rfl h⟩
  generation _ h := absurd h (Option.not_mem_none _)
  turn_ne h := absurd rfl h
  belongsTo _ h := absurd h (Option.not_mem_none _)
  marked := Transcript.marked_empty

/-- What is quiet depends on the turn and the transcript alone. -/
theorem Quiet.congr (h : s.Quiet) (s' : Session) (ht : s'.turn = s.turn)
    (hx : s'.transcript = s.transcript) : s'.Quiet :=
  ⟨ht ▸ h.turn, hx ▸ h.inProgress, hx ▸ h.marked⟩

/-- What is coherent depends on the parts that say the same thing. -/
theorem Coherent.congr (h : s.Coherent) (s' : Session) (hp : s'.phase = s.phase)
    (hg : s'.generation = s.generation) (ht : s'.turn = s.turn)
    (hx : s'.transcript = s.transcript) (ha : s'.approvals = s.approvals) : s'.Coherent where
  phase_ne := hp ▸ h.phase_ne
  idle_iff := by rw [hp, ht]; exact h.idle_iff
  draining_iff := by rw [hp, ha]; exact h.draining_iff
  generation := by rw [hg, ht]; exact h.generation
  turn_ne := by rw [hx, ht]; exact h.turn_ne
  belongsTo := by rw [hx, hg]; exact h.belongsTo
  marked := hx ▸ h.marked

/-! ## Ending a stream -/

theorem Coherent.quiet (h : s.Coherent) (ht : s.turn = none) : s.Quiet where
  turn := ht
  inProgress := by
    cases hp : s.transcript.inProgress with
    | none => rfl
    | some p => exact absurd ht (h.turn_ne (by rw [hp]; exact Option.some_ne_none p))
  marked := h.marked

/-- Without a turn no bulk decision runs. -/
theorem Coherent.progress_eq_none (h : s.Coherent) (ht : s.turn = none) :
    s.approvals.progress = none := by
  by_cases hp : s.approvals.progress = none
  · exact hp
  · -- Else the session would be idle and draining at once.
    have hd := h.draining_iff.2 hp
    rw [h.idle_iff.2 ht] at hd
    exact absurd hd Phase.noConfusion

/-- A turn has ended if it is gone and the message in progress is finalized. -/
theorem quiet_of_finalize {s' : Session} (hm : s.transcript.Marked) (ht : s'.turn = none)
    {usage : Option Usage} (hf : s'.transcript = (s.transcript.finalize usage).2) : s'.Quiet where
  turn := ht
  inProgress := by rw [hf, Transcript.inProgress_finalize]
  marked := hf ▸ hm.finalize usage

/-- An interrupted turn leaves the session quiet, and no bulk decision runs. -/
theorem quiet_interrupt {turn : ActiveTurn} (ht : s.turn = some turn)
    (hm : s.transcript.Marked) : s.interrupt.Quiet ∧ s.interrupt.approvals.progress = none := by
  rw [interrupt_eq ht]
  exact ⟨quiet_of_finalize hm rfl rfl, rfl⟩

/-- So does interrupting a coherent session, also if it has no turn. -/
theorem Coherent.interrupt (h : s.Coherent) :
    s.interrupt.Quiet ∧ s.interrupt.approvals.progress = none := by
  cases ht : s.turn with
  | none =>
    rw [interrupt_of_noTurn ht]
    exact ⟨h.quiet ht, h.progress_eq_none ht⟩
  | some turn => exact quiet_interrupt ht h.marked

theorem Coherent.completed (h : s.Coherent) (turn : ActiveTurn) (time : Option Count) :
    (s.completed turn time).Quiet :=
  quiet_of_finalize h.marked rfl rfl

theorem Coherent.failed (h : s.Coherent) (turn : ActiveTurn) (message : String) :
    (s.failed turn message).Quiet :=
  quiet_of_finalize h.marked rfl rfl

/-! ## Opening a stream -/

theorem Quiet.belongsTo (h : s.Quiet) (generation : Nat) : s.transcript.BelongsTo generation := by
  intro p hp
  rw [h.inProgress] at hp
  exact absurd hp (Option.not_mem_none p)

/-- Whatever is resumed, it belongs to the generation that resumes it. -/
theorem Quiet.resumedTranscript (h : s.Quiet) (generation : Nat) (resumed : Option Message) :
    (s.resumedTranscript generation resumed).BelongsTo generation ∧
      (s.resumedTranscript generation resumed).Marked := by
  cases resumed with
  | none => exact ⟨h.belongsTo generation, h.marked⟩
  | some m =>
    refine ⟨fun p hp => ?_, h.marked.resume generation m⟩
    rw [← Option.some.inj hp]

theorem servingPhase_eq_draining_iff (s : Session) :
    s.servingPhase = .drainingApprovals ↔ s.approvals.progress ≠ none := by
  rw [servingPhase, Coordinator.isDraining]
  cases s.approvals.progress with
  | none => decide
  | some p => exact ⟨fun _ => Option.some_ne_none p, fun _ => rfl⟩

theorem servingPhase_ne (s : Session) :
    s.servingPhase ≠ .idle ∧ s.servingPhase ≠ .cancelling := by
  rw [servingPhase]
  split <;> decide

/-- A quiet session in which a stream is opened is coherent again. -/
theorem Quiet.openStream (h : s.Quiet) (kind : TurnKind) (request : Request)
    (resumed : Option Message) : (s.openStream kind request resumed).Coherent := by
  obtain ⟨hb, hm⟩ := h.resumedTranscript (s.generation + 1) resumed
  obtain ⟨hi, hc⟩ := s.servingPhase_ne
  rw [openStream_eq]
  exact {
    phase_ne := hc
    idle_iff := ⟨fun hp => absurd hp hi, fun ht => absurd ht (Option.some_ne_none _)⟩
    draining_iff := s.servingPhase_eq_draining_iff
    generation := fun turn ht => by rw [← Option.some.inj ht]
    turn_ne := fun _ => Option.some_ne_none _
    belongsTo := hb
    marked := hm }

theorem Quiet.withInput (h : s.Quiet) (content : String) : (s.withInput content).Quiet :=
  ⟨h.turn, h.inProgress, h.marked.push _⟩

theorem Quiet.withoutResumed (h : s.Quiet) : s.withoutResumed.Quiet :=
  ⟨h.turn, (Transcript.inProgress_takeLastAssistant _).trans h.inProgress,
    h.marked.takeLastAssistant⟩

theorem Quiet.beginTurn (h : s.Quiet) (content : String) : (s.beginTurn content).Coherent := by
  rw [beginTurn_eq]
  exact (h.withInput content).openStream _ _ _

theorem Quiet.beginContinuation (h : s.Quiet) (callId : String) (decision : Decision)
    (reason : Option String) : (s.beginContinuation callId decision reason).Coherent := by
  rw [beginContinuation_eq]
  exact h.withoutResumed.openStream _ _ _

/-! ## Coming to rest -/

/-- After the last call of a bulk decision none runs. -/
theorem progress_of_finished {c : Coordinator} {p : Progress} (h : c.complete.1 = .finished p) :
    c.complete.2.progress = none := by
  unfold Coordinator.complete at h ⊢
  cases hp : c.progress with
  | none => rw [hp] at h; exact nomatch h
  | some q =>
    cases hw : c.waiting with
    | nil => rfl
    | cons next rest => rw [hp, hw] at h; exact nomatch h

theorem progress_of_idle {c : Coordinator} (h : c.complete.1 = .idle) :
    c.complete.2.progress = none := by
  unfold Coordinator.complete at h ⊢
  cases hp : c.progress with
  | none => exact hp
  | some q =>
    cases hw : c.waiting with
    | nil => rfl
    | cons next rest => rw [hp, hw] at h; exact nomatch h

/-- A quiet session that is idle and without a bulk decision is coherent. -/
theorem Quiet.coherent (h : s.Quiet) (hp : s.phase = .idle) (ha : s.approvals.progress = none) :
    s.Coherent where
  phase_ne := by rw [hp]; exact Phase.noConfusion
  idle_iff := ⟨fun _ => h.turn, fun _ => hp⟩
  draining_iff := ⟨fun hd => absurd (hp.symm.trans hd) Phase.noConfusion, fun hn => absurd ha hn⟩
  generation turn ht := absurd (h.turn ▸ ht) (Option.not_mem_none turn)
  turn_ne hn := absurd h.inProgress hn
  belongsTo := h.belongsTo s.generation
  marked := h.marked

theorem Quiet.releaseImmediate (h : s.Quiet) : s.releaseImmediate.Quiet :=
  h.congr _ rfl rfl

theorem Coherent.drainQueue (h : s.Coherent) : s.drainQueue.Coherent := by
  rcases drainQueue_cases s with ⟨hd, _⟩ | ⟨entry, rest, hc, _, hd⟩
  · rw [hd]
    exact h
  · -- With no turn the session is quiet, also once the entry is taken out.
    rw [hd]
    exact ((h.quiet hc.noTurn).congr (s.afterHead rest) rfl rfl).beginTurn _

theorem Quiet.settle (h : s.Quiet) (ha : s.approvals.progress = none) (outcome : Outcome) :
    (s.settle outcome).Coherent := by
  have hr : (s.rested outcome).Quiet := h.congr _ rfl rfl
  rw [settle_eq]
  exact (hr.coherent rfl ha).drainQueue

/-- With its turn complete, a coherent session goes on to the next call of a bulk
    decision, or comes to rest. -/
theorem Coherent.complete (h : s.Coherent) {turn : ActiveTurn} (ht : s.turn = some turn)
    (time : Option Count) : (s.complete time).Coherent := by
  have hq := h.completed turn time
  rw [complete_eq ht]
  cases hs : s.approvals.complete.1 with
  | next callId decision progress => exact hq.beginContinuation callId decision none
  | finished progress => exact hq.releaseImmediate.settle (progress_of_finished hs) _
  | idle => exact hq.releaseImmediate.settle (progress_of_idle hs) _

theorem Coherent.fail (h : s.Coherent) {turn : ActiveTurn} (ht : s.turn = some turn)
    (message : String) : (s.fail message).Coherent := by
  rw [fail_eq ht]
  exact (h.failed turn message).settle rfl _

/-! ## Writing -/

theorem transcript_updateCurrent (s : Session) (m : Message) :
    (s.updateCurrent m).transcript = s.transcript.setCurrent m := by
  rw [updateCurrent, tellCurrent_eq]

/-- The message in progress stays the only one streaming, and that of its stream,
    when a streaming message replaces it. -/
theorem written_updateCurrent {m : Message} (hm : s.transcript.Marked)
    (hb : s.transcript.BelongsTo s.generation) (h : m.streaming = true) :
    (s.updateCurrent m).transcript.Marked ∧
      (s.updateCurrent m).transcript.BelongsTo s.generation := by
  rw [transcript_updateCurrent]
  exact ⟨hm.setCurrent h, hb.setCurrent m⟩

theorem written_ensureCurrent (hm : s.transcript.Marked) :
    s.ensureCurrent.2.transcript.Marked ∧ s.ensureCurrent.2.transcript.BelongsTo s.generation ∧
      s.ensureCurrent.1.streaming = true :=
  ⟨(hm.ensureCurrent _ _ _).1, Transcript.belongsTo_ensureCurrent _ _ _ _,
    (hm.ensureCurrent _ _ _).2⟩

theorem written_recordUsage (hm : s.transcript.Marked) (hb : s.transcript.BelongsTo s.generation)
    (delta : Usage) : (s.recordUsage delta).transcript.Marked ∧
      (s.recordUsage delta).transcript.BelongsTo s.generation := by
  rw [recordUsage_eq]
  simp only [accounted, accountedTranscript]
  split
  · next m hc =>
    have hs : m.streaming = true := hm.streaming_of_currentOf? hc
    exact ⟨hm.setCurrent hs, hb.setCurrent _⟩
  · exact ⟨hm, hb⟩

/-- An event that is not terminal writes to no message but the one in progress, which
    stays that of its stream. -/
theorem written_apply (hm : s.transcript.Marked) (hb : s.transcript.BelongsTo s.generation)
    {e : TurnEvent} (he : e.isTerminal = false) :
    (s.apply e).transcript.Marked ∧ (s.apply e).transcript.BelongsTo s.generation := by
  obtain ⟨hm', hb', hs⟩ := written_ensureCurrent hm
  cases e with
  | ready runId => exact ⟨hm, hb⟩
  | token text =>
    rw [apply, appendText]
    split
    · exact ⟨hm, hb⟩
    · exact written_updateCurrent (s := { s.ensureCurrent.2 with ids := _ }) hm' hb'
        ((Message.streaming_appendText _ _ _).trans hs)
  | toolsPending us =>
    rw [apply, applyPending]
    split
    · exact ⟨hm, hb⟩
    · simp only
      split
      · exact written_updateCurrent hm' hb' ((Message.streaming_applyPending _ _).trans hs)
      · exact ⟨hm', hb'⟩
  | tool kind u =>
    rw [apply, applyTool]
    split
    · simp only
      split
      · exact written_updateCurrent hm' hb' ((Message.streaming_applyUpdate _ _ _).trans hs)
      · exact ⟨hm', hb'⟩
    · split
      · exact ⟨hm, hb⟩
      · next m hc =>
        simp only
        split
        · exact written_updateCurrent hm hb
            ((Message.streaming_applyUpdate _ _ _).trans (hm.streaming_of_currentOf? hc))
        · exact ⟨hm, hb⟩
  | usage report source =>
    rw [apply]
    split
    · exact written_recordUsage hm hb report
    · exact ⟨hm, hb⟩
  | firstToken time => exact written_recordUsage hm hb _
  | completed time => exact absurd he Bool.noConfusion
  | error message => exact absurd he Bool.noConfusion

/-! ## Every input -/

/-- A session stays coherent as its stream goes on. -/
theorem Coherent.continues (h : s.Coherent) {s' : Session} (hc : s.Continues s')
    (hm : s'.transcript.Marked) (hb : s'.transcript.BelongsTo s.generation)
    (ht : s.turn ≠ none) : s'.Coherent := by
  obtain ⟨runId, htm⟩ := hc.turn
  have hn : s'.turn ≠ none := by
    rw [htm, ne_eq, Option.map_eq_none_iff]
    exact ht
  exact {
    phase_ne := by rw [hc.phase]; exact h.phase_ne
    idle_iff := by rw [hc.phase, h.idle_iff]; exact ⟨fun he => absurd he ht, fun he => absurd he hn⟩
    draining_iff := by rw [hc.phase, hc.approvals]; exact h.draining_iff
    generation := fun turn' ht' => by
      rw [htm] at ht'
      obtain ⟨turn, hturn, rfl⟩ := Option.map_eq_some_iff.1 ht'
      rw [hc.generation]
      exact h.generation turn hturn
    turn_ne := fun _ => hn
    belongsTo := by rw [hc.generation]; exact hb
    marked := hm }

/-- A cancelled turn leaves the session quiet, although it is not coherent before. -/
theorem quiet_cancelled {turn : ActiveTurn} (ht : s.turn = some turn)
    (hm : s.transcript.Marked) : s.cancelled.Quiet ∧ s.cancelled.approvals.progress = none := by
  rw [cancelled, setPhase_eq]
  exact quiet_interrupt ht hm

/-- A quiet session that goes idle without a bulk decision is coherent. -/
theorem Quiet.setPhase_idle (h : s.Quiet) (ha : s.approvals.progress = none) :
    (s.setPhase .idle).Coherent := by
  rw [setPhase_eq]
  exact (h.congr { s with phase := .idle, outbox := _ } rfl rfl).coherent rfl ha

/-- Every way of taking an input keeps a session coherent. -/
theorem Coherent.reaction (h : s.Coherent) {i : Input} {r : Option (Except Error Reply)}
    {s' : Session} (hr : s.Reaction i r s') : s'.Coherent := by
  obtain ⟨hq, ha⟩ := h.interrupt
  cases hr with
  | refuses _ => exact h
  | ignores _ => exact h
  | waits => exact h.congr _ rfl rfl rfl rfl rfl
  | writes hl he =>
    obtain ⟨_, turn, ht⟩ := (s.isLive_iff _).1 hl
    obtain ⟨hm, hb⟩ := written_apply h.marked h.belongsTo he
    exact h.continues (continues_apply s he) hm hb (by rw [ht]; exact Option.some_ne_none turn)
  | completes hl =>
    -- An event is live only while there is a turn.
    obtain ⟨_, turn, ht⟩ := (s.isLive_iff _).1 hl
    exact h.complete ht _
  | fails hl =>
    obtain ⟨_, turn, ht⟩ := (s.isLive_iff _).1 hl
    exact h.fail ht _
  | starts _ hi _ => exact (h.quiet (h.idle_iff.1 hi)).beginTurn _
  | @queues content _ _ => exact (h.congr (s.withQueued content) rfl rfl rfl rfl rfl).drainQueue
  | restarts _ => exact hq.releaseImmediate.beginTurn _
  | @pulls _ _ before after _ _ _ _ =>
    -- The queue is told first, in a session that is still coherent.
    have hw := h.congr (s.withQueue ⟨before ++ after, true⟩) rfl rfl rfl rfl rfl
    exact hw.interrupt.1.beginTurn _
  | removes _ _ _ => exact h.congr _ rfl rfl rfl rfl rfl
  | restsOn ht =>
    rw [abortApprovals_eq]
    exact ((h.quiet ht).releaseImmediate.congr { s.releaseImmediate with
      approvals := {}, outbox := _ } rfl rfl).coherent (h.idle_iff.2 ht) rfl
  | cancels ht =>
    -- The session is cancelling while it is interrupted, and idle only then.
    obtain ⟨turn, ht⟩ := Option.ne_none_iff_exists'.1 ht
    obtain ⟨hc, hn⟩ := quiet_cancelled ht h.marked
    exact (hc.setPhase_idle hn).drainQueue
  | decides _ => exact hq.beginContinuation _ _ _
  | @decidesAll _ _ rest _ _ =>
    exact (hq.congr (s.bulkBegun rest _) rfl rfl).beginContinuation _ _ _
  | hydrates hc =>
    obtain ⟨hp, ht, hx⟩ := (s.canHydrate_iff).1 hc
    exact Quiet.coherent ⟨ht, rfl, Transcript.marked_settled _⟩ hp (h.progress_eq_none ht)
  | shutsDown => exact hq.setPhase_idle ha

theorem Coherent.react (h : s.Coherent) (i : Input) : (s.react i).2.Coherent :=
  h.reaction (s.reaction i)

theorem Coherent.run (h : s.Coherent) (inputs : List Input) : (s.run inputs).Coherent :=
  run_induction h fun _ i _ h => h.react i

/-- Every session that some inputs lead to is coherent. -/
theorem coherent_of_reachable (h : s.Reachable) : s.Coherent := by
  obtain ⟨conversationId, interval, now, ids, inputs, rfl⟩ := h
  exact (coherent_start conversationId interval now ids).run inputs

end Session

end Dialogue
