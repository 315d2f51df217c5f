import Dialogue.Proofs.Session.Growth

/-!
# What a new turn answers

The pieces of text that the stream of a new turn brings become one message, which is
finalized when the stream completes (`AnswerOf`).

* `apartFromBulk_of_reachable`: no bulk decision runs beside a new turn, so when its
  stream completes nothing takes the message back;
* `Answers.appendText`, `Answers.run`: what a stream has written goes on with every piece;
* `Answers.complete`, `run_answer`: once the stream completes, the pieces joined are the
  content of the message.
-/

namespace Dialogue

theorem Message.content_appendText (m : Message) (ids : Ids) (text : String) :
    (m.appendText ids text).1.content = m.content ++ text := by
  unfold appendText
  split
  · next h => rw [h, String.append_empty]
  · split <;> rfl

namespace Session

open Effect

variable {s s' : Session} {text : String}

/-! ## New turns and bulk decisions -/

/-- No bulk decision runs beside a new turn. -/
def ApartFromBulk (s : Session) : Prop :=
  ∀ turn ∈ s.turn, turn.kind = .newTurn → s.approvals.progress = none

theorem apartFromBulk_of_noTurn (h : s.turn = none) : s.ApartFromBulk :=
  fun turn ht => absurd (h ▸ ht) (Option.not_mem_none turn)

theorem ApartFromBulk.congr (h : s.ApartFromBulk) (s' : Session) (ht : s'.turn = s.turn)
    (ha : s'.approvals = s.approvals) : s'.ApartFromBulk := by
  rw [ApartFromBulk, ht, ha]
  exact h

/-- What a stream writes leaves its kind and the bulk decision alone. -/
theorem ApartFromBulk.continues (h : s.ApartFromBulk) (hc : s.Continues s') :
    s'.ApartFromBulk := by
  intro turn ht hk
  obtain ⟨runId, hturn⟩ := hc.turn
  obtain ⟨turn', ht', rfl⟩ := Option.map_eq_some_iff.1 (hturn ▸ ht)
  rw [hc.approvals]
  exact h turn' ht' hk

theorem apartFromBulk_beginTurn (h : s.approvals.progress = none) (content : String) :
    (s.beginTurn content).ApartFromBulk := by
  rw [beginTurn_eq, openStream_eq]
  exact fun _ _ _ => h

theorem apartFromBulk_beginContinuation (s : Session) (callId : String) (decision : Decision)
    (reason : Option String) : (s.beginContinuation callId decision reason).ApartFromBulk := by
  rw [beginContinuation_eq, openStream_eq]
  rintro turn ⟨⟩ hk
  exact nomatch hk

theorem ApartFromBulk.drainQueue (h : s.ApartFromBulk)
    (ha : s.turn = none → s.approvals.progress = none) : s.drainQueue.ApartFromBulk := by
  rcases drainQueue_cases s with ⟨hd, _⟩ | ⟨entry, rest, hc, _, hd⟩
  · rw [hd]
    exact h
  · rw [hd]
    exact apartFromBulk_beginTurn (s := s.afterHead rest) (ha hc.noTurn) _

theorem Quiet.apartFromBulk_settle (h : s.Quiet) (ha : s.approvals.progress = none)
    (outcome : Outcome) : (s.settle outcome).ApartFromBulk := by
  rw [settle_eq]
  exact (apartFromBulk_of_noTurn (s := s.rested outcome) h.turn).drainQueue fun _ => ha

theorem Coherent.apartFromBulk_complete (h : s.Coherent) {turn : ActiveTurn}
    (ht : s.turn = some turn) (time : Option Count) : (s.complete time).ApartFromBulk := by
  have hq := (h.completed turn time).releaseImmediate
  rw [complete_eq ht]
  cases hs : s.approvals.complete.1 with
  | next callId decision progress => exact apartFromBulk_beginContinuation _ _ _ _
  | finished progress => exact hq.apartFromBulk_settle (progress_of_finished hs) _
  | idle => exact hq.apartFromBulk_settle (progress_of_idle hs) _

theorem ApartFromBulk.reaction (h : s.ApartFromBulk) (hc : s.Coherent) {i : Input}
    {r : Option (Except Error Reply)} (hr : s.Reaction i r s') : s'.ApartFromBulk := by
  obtain ⟨hq, ha⟩ := hc.interrupt
  cases hr with
  | refuses _ | ignores _ => exact h
  | waits | removes _ _ _ | hydrates _ => exact h.congr _ rfl rfl
  | writes _ he => exact h.continues (continues_apply s he)
  | completes hl =>
    obtain ⟨_, turn, ht⟩ := (s.isLive_iff _).1 hl
    exact hc.apartFromBulk_complete ht _
  | fails hl =>
    obtain ⟨_, turn, ht⟩ := (s.isLive_iff _).1 hl
    rw [fail_eq ht]
    exact (hc.failed turn _).apartFromBulk_settle rfl _
  | starts _ hi _ =>
    exact apartFromBulk_beginTurn (hc.progress_eq_none (hc.idle_iff.1 hi)) _
  | queues _ _ =>
    exact (h.congr (s.withQueued _) rfl rfl).drainQueue hc.progress_eq_none
  | restarts _ => exact apartFromBulk_beginTurn (s := s.interrupt.releaseImmediate) ha _
  | @pulls _ _ before after _ _ _ _ =>
    have hw := hc.congr (s.withQueue ⟨before ++ after, true⟩) rfl rfl rfl rfl rfl
    exact apartFromBulk_beginTurn hw.interrupt.2 _
  | restsOn ht =>
    rw [abortApprovals_eq]
    exact apartFromBulk_of_noTurn ht
  | cancels ht =>
    obtain ⟨turn, ht⟩ := Option.ne_none_iff_exists'.1 ht
    obtain ⟨hcq, hn⟩ := quiet_cancelled ht hc.marked
    have hi : (s.cancelled.setPhase .idle).Coherent := hcq.setPhase_idle hn
    have ht' : (s.cancelled.setPhase .idle).turn = none := by
      rw [setPhase_eq]
      exact hcq.turn
    exact (apartFromBulk_of_noTurn ht').drainQueue hi.progress_eq_none
  | decides _ | decidesAll _ _ => exact apartFromBulk_beginContinuation _ _ _ _
  | shutsDown =>
    rw [setPhase_eq]
    exact apartFromBulk_of_noTurn hq.turn

/-- In no session that some inputs lead to does a bulk decision run beside a new turn. -/
theorem apartFromBulk_of_reachable (h : s.Reachable) : s.ApartFromBulk := by
  obtain ⟨conversationId, interval, now, ids, inputs, rfl⟩ := h
  have hstart := coherent_start conversationId interval now ids
  -- What carries the induction is that the session is coherent as well.
  exact (run_induction (P := fun s => s.Coherent ∧ s.ApartFromBulk)
    ⟨hstart, apartFromBulk_of_noTurn rfl⟩
    fun s i _ h => ⟨h.1.react i, h.2.reaction h.1 (s.reaction i)⟩).2

/-! ## The text of an answer -/

/-- One session is another one later in the same stream, which has written a text since and
    nothing else. -/
structure Answers (s s' : Session) (text : String) : Prop where
  continues : s.Continues s'
  belongsTo : s'.transcript.BelongsTo s'.generation
  finalized : s'.transcript.finalized = s.transcript.finalized
  unwritten : text = "" → s'.transcript.inProgress = none
  written : text ≠ "" → ∃ p, s'.transcript.inProgress = some p ∧ p.message.isAssistant = true ∧
    p.message.content = text

theorem answers_start (h : s.transcript.inProgress = none) : s.Answers s "" where
  continues := .refl s
  belongsTo _ hp := nomatch h ▸ hp
  finalized := rfl
  unwritten _ := h
  written hn := absurd rfl hn

/-- The message that a text would go to: the one in progress, or a new one. -/
def underWay (s : Session) : InProgress :=
  s.transcript.inProgress.getD ⟨s.generation, .beginAssistant s.ids.next s.now, false⟩

/-- What takes the place of the message under way. -/
theorem transcript_updateEnsured (hb : s.transcript.BelongsTo s.generation) (ids : Ids)
    (m : Message) : s.ensureCurrent.1 = s.underWay.message ∧
      (updateCurrent { s.ensureCurrent.2 with ids } m).transcript =
        { s.transcript with inProgress := some { s.underWay with message := m } } := by
  rw [underWay]
  cases hp : s.transcript.inProgress with
  | none =>
    rw [ensureCurrent_of_none hp]
    exact ⟨rfl, transcript_updateCurrent _ _⟩
  | some p =>
    rw [ensureCurrent_of_some hb hp]
    exact ⟨rfl, (transcript_updateCurrent _ _).trans (Transcript.setCurrent_of_some hp _)⟩

/-- A piece of text goes to the end of the message under way. -/
theorem transcript_appendText (hb : s.transcript.BelongsTo s.generation) (h : text ≠ "") :
    ∃ ids, (s.appendText text).transcript = { s.transcript with
      inProgress := some { s.underWay with
        message := (s.underWay.message.appendText ids text).1 } } := by
  let ids := s.ensureCurrent.2.ids
  obtain ⟨hm, hx⟩ := transcript_updateEnsured hb (s.underWay.message.appendText ids text).2
    (s.underWay.message.appendText ids text).1
  refine ⟨ids, ?_⟩
  rw [← hx, ← hm, appendText, if_neg h]

/-- What the message under way is when a text was written. -/
theorem Answers.underWay (h : s.Answers s' text) :
    s'.underWay.generation = s'.generation ∧ s'.underWay.message.isAssistant = true ∧
      s'.underWay.message.content = text := by
  rw [Session.underWay]
  by_cases ht : text = ""
  · rw [h.unwritten ht, ht]
    exact ⟨rfl, rfl, rfl⟩
  · obtain ⟨p, hp, ha, hc⟩ := h.written ht
    rw [hp]
    exact ⟨h.belongsTo p hp, ha, hc⟩

/-- A piece goes to the end of what was written. -/
theorem Answers.appendText (h : s.Answers s' text) (more : String) :
    s.Answers (s'.appendText more) (text ++ more) := by
  by_cases hm : more = ""
  · rw [hm, String.append_empty, Session.appendText, if_pos rfl]
    exact h
  · have hne : text ++ more ≠ "" := fun he => hm (String.append_eq_empty_iff.1 he).2
    have hc := continues_appendText s' more
    obtain ⟨hg, ha, ht⟩ := h.underWay
    obtain ⟨ids, hx⟩ := transcript_appendText h.belongsTo hm
    refine ⟨h.continues.trans hc, fun p hp => ?_, ?_, fun he => absurd he hne, fun _ => ?_⟩
    · rw [hx] at hp
      obtain rfl := Option.some.inj hp
      exact hg.trans hc.generation.symm
    · rw [hx]
      exact h.finalized
    · refine ⟨_, by rw [hx], ?_, ?_⟩
      · exact (Message.extends_appendText _ ids more).isAssistant.trans ha
      · rw [Message.content_appendText, ht]

/-- The stream of a turn is live as long as it writes. -/
theorem Continues.isLive (h : s.Continues s') {turn : ActiveTurn} (ht : s.turn = some turn) :
    s'.isLive s.generation = true := by
  obtain ⟨runId, hturn⟩ := h.turn
  rw [isLive_iff, hturn, ht]
  exact ⟨h.generation.symm, _, rfl⟩

/-- The inputs that events of a stream are. -/
def streamInputs (generation : Nat) (events : List TurnEvent) : List Input :=
  events.map fun e => .event ⟨generation, e⟩

/-- Pieces go to the end of what was written, one after the other. -/
theorem Answers.run (h : s.Answers s' text) {turn : ActiveTurn} (ht : s.turn = some turn)
    (pieces : List String) :
    s.Answers (s'.run (streamInputs s.generation (pieces.map .token)))
      (text ++ String.join pieces) := by
  induction pieces generalizing s' text with
  | nil =>
    rw [String.join_nil, String.append_empty]
    exact h
  | cons piece pieces ih =>
    have hreact : (s'.react (.event ⟨s.generation, .token piece⟩)).2 = s'.appendText piece :=
      handle_of_live (h.continues.isLive ht)
    have := ih (h.appendText piece)
    rw [String.join_cons, ← String.append_assoc]
    rw [← hreact] at this
    exact this

/-! ## The answer -/

/-- The message that a text becomes, and none if it is empty. -/
inductive AnswerOf : String → List Message → Prop
  | none : AnswerOf "" []
  | message {m : Message} : m.content ≠ "" → m.isAssistant = true → m.streaming = false →
      AnswerOf m.content [m]

/-- What was written is finalized as an answer. -/
theorem Answers.finalize (h : s.Answers s' text) (usage : Option Usage) :
    AnswerOf text (s'.transcript.finalize usage).1.toList := by
  by_cases ht : text = ""
  · rw [Transcript.finalize_of_none (h.unwritten ht), ht]
    exact .none
  · obtain ⟨p, hp, ha, rfl⟩ := h.written ht
    have hc : (Transcript.InProgress.settle p usage).hasContent = true := by
      rw [Message.hasContent, Bool.or_eq_true, bne_iff_ne]
      exact .inl ht
    rw [Transcript.finalize, hp]
    simp only [hc, Bool.true_or, if_true]
    exact .message (m := Transcript.InProgress.settle p usage) ht ha rfl

/-- A session has come to another one, and has put messages at the end of its transcript on
    the way: an answer to a text, which it told, and then only input. -/
structure Answered (s s' : Session) (text : String) : Prop where
  answer : ∃ answer inputs es, s'.transcript.finalized =
      s.transcript.finalized ++ (answer ++ inputs) ∧ s'.outbox = s.outbox ++ es ∧
    AnswerOf text answer ∧ (∀ m ∈ answer, .told (.messageFinalized m) ∈ es) ∧
    ∀ m ∈ inputs, m.isAssistant = false

/-- Queued input that is started afterwards follows the answer. -/
theorem Answered.drainQueue (h : s.Answered s' text) : s.Answered s'.drainQueue text := by
  rcases drainQueue_cases s' with ⟨hd, _⟩ | ⟨entry, rest, _, _, hd⟩
  · rw [hd]
    exact h
  · obtain ⟨answer, inputs, es, hf, ho, ha, ht, hi⟩ := h.answer
    obtain ⟨more, hm, _⟩ := (s'.afterHead rest).acts_beginTurn entry.content
    refine ⟨answer, inputs ++ [(s'.afterHead rest).inputMessage entry.content],
      es ++ (tellings [.queueChanged rest] ++ more), ?_, ?_, ha,
      fun m hm => List.mem_append_left _ (ht m hm), List.forall_mem_append.2 ⟨hi, ?_⟩⟩
    · rw [hd, transcript_beginTurn]
      change s'.transcript.finalized ++ _ = _
      rw [hf]
      simp only [List.append_assoc]
      rfl
    · rw [hd, hm]
      change s'.outbox ++ _ ++ more = _
      rw [ho]
      simp only [List.append_assoc]
    · exact List.forall_mem_singleton.2 rfl

/-- The message that is finalized when a stream completes is told. -/
theorem told_completed (s : Session) (turn : ActiveTurn) (time : Option Count) :
    ∃ us, (s.completed turn time).outbox = s.outbox ++ tellings us ∧
      ∀ m ∈ (s.transcript.finalize
        (some (Usage.combine turn.baseUsage (s.completedUsage turn time)))).1,
        .messageFinalized m ∈ us := by
  refine ⟨_, rfl, fun m hm => List.mem_append_left _ (List.mem_append_left _ ?_)⟩
  exact List.mem_map.2 ⟨m, Option.mem_toList.2 hm, rfl⟩

/-- Once a stream completes that no bulk decision runs beside, what it wrote is answered. -/
theorem Answers.complete (h : s.Answers s' text) {turn : ActiveTurn} (ht : s'.turn = some turn)
    (ha : s'.approvals.progress = none) (time : Option Count) :
    s.Answered (s'.complete time) text := by
  have hidle : s'.approvals.complete.1 = .idle := by
    rw [Coordinator.complete, ha]
  rw [complete_eq ht, hidle, settle_eq]
  refine Answered.drainQueue ?_
  obtain ⟨us, ho⟩ := h.continues.told
  obtain ⟨vs, hv, hm⟩ := s'.told_completed turn time
  let usage := some (Usage.combine turn.baseUsage (s'.completedUsage turn time))
  refine ⟨(s'.transcript.finalize usage).1.toList, [], tellings us ++ (tellings vs ++
    tellings (.turnFinished .completed :: phaseUpdates s'.phase .idle)), ?_, ?_,
    h.finalize usage, fun m hm' => ?_, List.forall_mem_nil _⟩
  · rw [List.append_nil, ← h.finalized]
    exact Transcript.finalized_finalize _ usage
  · change (s'.completed turn time).outbox ++ _ = _
    rw [hv, ho]
    simp only [List.append_assoc]
    rfl
  · exact List.mem_append_right _ (List.mem_append_left _
      (List.mem_map_of_mem (hm m (Option.mem_toList.1 hm'))))

/-- The pieces of text that the stream of a new turn writes before it completes, joined, are
    its answer. -/
theorem answered_run (h : s.Reachable) {turn : ActiveTurn} (ht : s.turn = some turn)
    (hk : turn.kind = .newTurn) (hp : s.transcript.inProgress = none) (pieces : List String)
    (time : Option Count) :
    s.Answered (s.run (streamInputs s.generation (pieces.map .token ++ [.completed time])))
      (String.join pieces) := by
  have hw := (answers_start hp).run ht pieces
  rw [String.empty_append] at hw
  have hlast : (s.run (streamInputs s.generation (pieces.map .token ++ [.completed time]))) =
      (s.run (streamInputs s.generation (pieces.map .token))).complete time := by
    rw [streamInputs, List.map_append, run_append]
    exact handle_of_live (hw.continues.isLive ht)
  obtain ⟨runId, hturn⟩ := hw.continues.turn
  rw [ht] at hturn
  rw [hlast]
  exact hw.complete hturn (hw.continues.approvals ▸ apartFromBulk_of_reachable h turn ht hk) time

end Session

end Dialogue
