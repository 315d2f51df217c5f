import Dialogue.Proofs.Session.Coherence
import Dialogue.Proofs.Session.StreamLog

/-!
# At most one live stream

The streams of a session alternate (`Session.Accounted`): whatever the inputs, one
is opened only after the one before was given up or had ended.

An operation may do both, one after the other. It keeps the account of a session
that has one (`Session.Serves`), and operations that do so can follow each other
(`Serves.bind`):

* `serves_interrupt`: interrupting gives up the stream of the turn;
* `serves_openStream`: a stream is opened in a session without a turn;
* `accounted_run`: so the account is kept by every input, from the start on.
-/

namespace Dialogue

namespace Effect

/-- Telling does nothing to streams. -/
theorem marks_acts (es : List Effect) :
    (acts es).filterMap mark? = es.filterMap mark? := by
  rw [acts, List.filterMap_filter]
  congr 1
  funext e
  cases e <;> rfl

theorem marks_stops (conversationId : String) (runIds : List String) :
    (runIds.map (stopRequested conversationId)).filterMap mark? = [] := by
  rw [List.filterMap_map, List.filterMap_eq_nil_iff]
  exact fun _ _ => rfl

/-- The streams opened in the log of effects are those that they open. -/
theorem opened_marks (es : List Effect) :
    StreamLog.opened (es.filterMap mark?) = (openings es).map (·.1) := by
  rw [StreamLog.opened, openings, List.filterMap_filterMap, List.map_filterMap]
  congr 1
  funext e
  cases e <;> rfl

/-- The streams given up in the log of effects are those that they give up. -/
theorem cancelled_marks (es : List Effect) :
    StreamLog.cancelled (es.filterMap mark?) = cancellations es := by
  rw [StreamLog.cancelled, cancellations, List.filterMap_filterMap]
  congr 1
  funext e
  cases e <;> rfl

end Effect

namespace Session

open Effect StreamLog

variable {s s' s'' : Session} {log : List StreamMark}

/-- A log accounts for the streams of a session: they alternate, the one that is open
    is that of the turn, and none has a generation that is still to come. -/
structure Accounted (s : Session) (log : List StreamMark) : Prop where
  alternates : Alternates log (s.turn.map (·.generation))
  le : ∀ g ∈ opened log, g ≤ s.generation

theorem Accounted.of_turn (h : s.Accounted log) {turn : ActiveTurn} (ht : s.turn = some turn) :
    Alternates log (some turn.generation) := by
  have ha := h.alternates
  rwa [ht] at ha

theorem Accounted.of_noTurn (h : s.Accounted log) (ht : s.turn = none) : Alternates log none := by
  have ha := h.alternates
  rwa [ht] at ha

/-- What is done from one session to another continues the log of the one to a log
    of the other. -/
def Serves (s : Session) (log : List StreamMark) (s' : Session) : Prop :=
  ∃ as, s.Acts s' as ∧ s'.Accounted (log ++ as.filterMap mark?)

/-- Operations follow each other, each with the log that the one before leaves. -/
theorem Serves.bind (h : s.Serves log s')
    (h' : ∀ log', s'.Accounted log' → s'.Serves log' s'') : s.Serves log s'' := by
  obtain ⟨as, ha, hl⟩ := h
  obtain ⟨bs, hb, hl'⟩ := h' _ hl
  refine ⟨as ++ bs, ha.trans hb, ?_⟩
  rwa [List.filterMap_append, ← List.append_assoc]

/-- An operation that only tells keeps the account, if the stream of the turn is the
    same and no generation is taken back. -/
theorem Accounted.serves (h : s.Accounted log) (ha : s.Acts s' [])
    (ht : s'.turn.map (·.generation) = s.turn.map (·.generation))
    (hg : s.generation ≤ s'.generation) : s.Serves log s' := by
  refine ⟨[], ha, ?_, fun g hg' => ?_⟩
  · rw [List.filterMap_nil, List.append_nil, ht]
    exact h.alternates
  · rw [List.filterMap_nil, List.append_nil] at hg'
    exact Nat.le_trans (h.le g hg') hg

theorem Accounted.serves_self (h : s.Accounted log) : s.Serves log s :=
  h.serves (acts_of_outbox_eq rfl) rfl (Nat.le_refl _)

/-! ## Ending and opening streams -/

/-- When the stream of the turn is closed, none is open. -/
theorem Accounted.closed (h : s.Accounted log) {turn : ActiveTurn} (ht : s.turn = some turn)
    {mark : StreamMark} (hm : mark = .cancelled turn.generation ∨ mark = .ended turn.generation)
    (hn : s'.turn = none) (hg : s.generation ≤ s'.generation) :
    s'.Accounted (log ++ [mark]) := by
  have ha := h.of_turn ht
  have ho : opened [mark] = [] := by rcases hm with rfl | rfl <;> rfl
  refine ⟨?_, ?_⟩
  · rw [hn]
    rcases hm with rfl | rfl
    · exact ha.cancelled
    · exact ha.ended
  · rw [opened_concat ho]
    exact fun g hg' => Nat.le_trans (h.le g hg') hg

theorem marks_interruptActs {turn : ActiveTurn} (ht : s.turn = some turn) :
    s.interruptActs.filterMap mark? = [.cancelled turn.generation] := by
  rw [interruptActs, ht]
  exact congrArg _ (marks_stops s.conversationId turn.runId.toList)

/-- Interrupting gives up the stream of the turn, if there is one. -/
theorem Accounted.serves_interrupt (h : s.Accounted log) : s.Serves log s.interrupt := by
  cases ht : s.turn with
  | none =>
    rw [interrupt_of_noTurn ht]
    exact h.serves_self
  | some turn =>
    refine ⟨s.interruptActs, acts_interrupt s, ?_⟩
    rw [marks_interruptActs ht, interrupt_eq ht]
    exact h.closed ht (.inl rfl) rfl (Nat.le_succ _)

/-- A stream is opened when none is open. -/
theorem Accounted.serves_openStream (h : s.Accounted log) (ht : s.turn = none) (kind : TurnKind)
    (request : Request) (resumed : Option Message) :
    s.Serves log (s.openStream kind request resumed) := by
  refine ⟨_, acts_openStream s kind request resumed, ?_⟩
  have ha := h.of_noTurn ht
  have hlt : ∀ g ∈ opened log, g < s.generation + 1 := fun g hg => Nat.lt_succ_of_le (h.le g hg)
  rw [openStream_eq]
  refine ⟨ha.opened hlt, fun g hg => ?_⟩
  rw [show [Effect.opened (s.generation + 1) request].filterMap mark? =
    [.opened (s.generation + 1)] from rfl, opened_append] at hg
  rcases List.mem_append.1 hg with hg | hg
  · exact Nat.le_of_lt (hlt g hg)
  · exact Nat.le_of_eq (List.mem_singleton.1 hg)

theorem Accounted.serves_beginTurn (h : s.Accounted log) (ht : s.turn = none)
    (content : String) : s.Serves log (s.beginTurn content) := by
  have hw : s.Serves log (s.withInput content) :=
    h.serves (acts_of_tellings rfl) rfl (Nat.le_refl _)
  rw [beginTurn_eq]
  exact hw.bind fun _ h => h.serves_openStream ht _ _ _

theorem Accounted.serves_beginContinuation (h : s.Accounted log) (ht : s.turn = none)
    (callId : String) (decision : Decision) (reason : Option String) :
    s.Serves log (s.beginContinuation callId decision reason) := by
  have hw : s.Serves log s.withoutResumed :=
    h.serves (acts_of_outbox_eq rfl) rfl (Nat.le_refl _)
  rw [beginContinuation_eq]
  exact hw.bind fun _ h => h.serves_openStream ht _ _ _

theorem Accounted.serves_drainQueue (h : s.Accounted log) : s.Serves log s.drainQueue := by
  rcases s.drainQueue_cases with ⟨hd, _⟩ | ⟨entry, rest, hc, _, hd⟩
  · rw [hd]
    exact h.serves_self
  · have hr : s.Serves log (s.afterHead rest) :=
      h.serves (acts_of_tellings rfl) rfl (Nat.le_refl _)
    rw [hd]
    exact hr.bind fun _ h => h.serves_beginTurn hc.noTurn _

theorem Accounted.serves_setPhase (h : s.Accounted log) (p : Phase) :
    s.Serves log (s.setPhase p) := by
  have ht : (s.setPhase p).turn = s.turn := by rw [setPhase_eq]
  have hg : (s.setPhase p).generation = s.generation := by rw [setPhase_eq]
  exact h.serves (acts_setPhase s p) (by rw [ht]) (Nat.le_of_eq hg.symm)

theorem Accounted.serves_releaseImmediate (h : s.Accounted log) :
    s.Serves log s.releaseImmediate :=
  h.serves (acts_of_outbox_eq rfl) rfl (Nat.le_refl _)

theorem Accounted.serves_settle (h : s.Accounted log) (outcome : Outcome) :
    s.Serves log (s.settle outcome) := by
  have hr : s.Serves log (s.rested outcome) :=
    h.serves (acts_of_tellings rfl) rfl (Nat.le_refl _)
  rw [settle_eq]
  exact hr.bind fun _ h => h.serves_drainQueue

/-! ## Every input -/

/-- A completed stream is followed by that of the next call, or by that of the oldest
    queued input, or by none. -/
theorem Accounted.serves_complete (h : s.Accounted log) {turn : ActiveTurn}
    (ht : s.turn = some turn) (time : Option Count) :
    s.Serves (log ++ [.ended turn.generation]) (s.complete time) := by
  -- The turn is gone before anything else is done, and that has no effect but telling.
  have hc : s.Serves (log ++ [.ended turn.generation]) (s.completed turn time) :=
    ⟨[], acts_of_tellings rfl, (List.append_nil _).symm ▸
      h.closed ht (.inr rfl) rfl (Nat.le_refl _)⟩
  have hr (log : List StreamMark) (h : (s.completed turn time).Accounted log) :=
    h.serves_releaseImmediate.bind fun _ h => h.serves_settle .completed
  rw [complete_eq ht]
  refine hc.bind fun log h => ?_
  cases s.approvals.complete.1 with
  | next callId decision progress => exact h.serves_beginContinuation rfl callId decision none
  | finished progress => exact hr log h
  | idle => exact hr log h

theorem Accounted.serves_fail (h : s.Accounted log) {turn : ActiveTurn}
    (ht : s.turn = some turn) (message : String) :
    s.Serves (log ++ [.ended turn.generation]) (s.fail message) := by
  have hf : s.Serves (log ++ [.ended turn.generation]) (s.failed turn message) :=
    ⟨[], acts_of_tellings rfl, (List.append_nil _).symm ▸
      h.closed ht (.inr rfl) rfl (Nat.le_refl _)⟩
  rw [fail_eq ht]
  exact hf.bind fun _ h => h.serves_settle _

/-- An event ends a stream if it is the terminal event of the active turn. -/
theorem ended_event (s : Session) (e : Envelope) : (s.transition (.event e)).ended =
    if s.isLive e.generation && e.event.isTerminal then [.ended e.generation] else [] := rfl

theorem ended_of_terminal {e : Envelope} (hc : s.Coherent) (hl : s.isLive e.generation = true)
    (he : e.event.isTerminal = true) :
    ∃ turn, s.turn = some turn ∧ (s.transition (.event e)).ended = [.ended turn.generation] := by
  obtain ⟨hg, turn, ht⟩ := (s.isLive_iff e.generation).1 hl
  refine ⟨turn, ht, ?_⟩
  rw [ended_event, hl, he, hc.generation turn ht, ← hg]
  rfl

theorem ended_of_not_terminal {e : Envelope}
    (h : s.isLive e.generation = false ∨ e.event.isTerminal = false) :
    (s.transition (.event e)).ended = [] := by
  rw [ended_event]
  rcases h with h | h
  · rw [h]
    rfl
  · rw [h, Bool.and_false]
    rfl

/-- Every way of taking an input continues the log of a coherent session, first with
    the stream that the input ends. -/
theorem Accounted.reaction (h : s.Accounted log) (hc : s.Coherent) {i : Input}
    {r : Option (Except Error Reply)} (hr : s.Reaction i r s') :
    s.Serves (log ++ (s.transition i).ended) s' := by
  -- Only an event can end a stream.
  have hn (c : Command) : log ++ (s.transition (.command c)).ended = log := List.append_nil log
  cases hr with
  | refuses _ =>
    rw [hn]
    exact h.serves_self
  | ignores hi =>
    have he : (s.transition i).ended = [] := by
      cases hi with
      | snapshot => rfl
      | hydrate _ => rfl
      | event hl => exact ended_of_not_terminal (.inl hl)
    rw [he, List.append_nil]
    exact h.serves_self
  | waits =>
    rw [show log ++ (s.transition (.elapse _)).ended = log from List.append_nil log]
    exact h.serves (acts_of_outbox_eq rfl) rfl (Nat.le_refl _)
  | writes _ he =>
    have hw := continues_apply s he
    obtain ⟨runId, ht⟩ := hw.turn
    rw [ended_of_not_terminal (.inr he), List.append_nil]
    refine h.serves hw.acts ?_ (Nat.le_of_eq hw.generation.symm)
    rw [ht, Option.map_map]
    rfl
  | @completes generation time hl =>
    obtain ⟨turn, ht, he⟩ := ended_of_terminal (e := ⟨generation, .completed time⟩) hc hl rfl
    rw [he]
    exact h.serves_complete ht _
  | @fails generation message hl =>
    obtain ⟨turn, ht, he⟩ := ended_of_terminal (e := ⟨generation, .error message⟩) hc hl rfl
    rw [he]
    exact h.serves_fail ht _
  | starts _ hi _ =>
    rw [hn]
    exact h.serves_beginTurn (hc.idle_iff.1 hi) _
  | @queues content _ _ =>
    have hq : s.Serves log (s.withQueued content) :=
      h.serves (acts_of_tellings rfl) rfl (Nat.le_refl _)
    rw [hn]
    exact hq.bind fun _ h => h.serves_drainQueue
  | restarts _ =>
    -- The stream of the turn is given up before another is opened, here and below.
    rw [hn]
    refine (h.serves_interrupt.bind fun _ h => h.serves_releaseImmediate).bind fun _ h => ?_
    exact h.serves_beginTurn s.turn_interrupt _
  | @pulls _ entry before after _ _ _ _ =>
    have hw : s.Serves log (s.withQueue ⟨before ++ after, true⟩) :=
      h.serves (acts_of_tellings rfl) rfl (Nat.le_refl _)
    rw [hn]
    refine (hw.bind fun _ h => h.serves_interrupt).bind fun _ h => ?_
    exact h.serves_beginTurn (turn_interrupt _) _
  | removes _ _ _ =>
    rw [hn]
    exact h.serves (acts_of_tellings rfl) rfl (Nat.le_refl _)
  | restsOn _ =>
    rw [hn, abortApprovals_eq]
    exact h.serves (acts_of_tellings rfl) rfl (Nat.le_refl _)
  | cancels _ =>
    rw [hn]
    have hc := h.serves_releaseImmediate.bind fun _ h => h.serves_setPhase .cancelling
    have hi := (hc.bind fun _ h => h.serves_interrupt).bind fun _ h => h.serves_setPhase .idle
    exact hi.bind fun _ h => h.serves_drainQueue
  | decides _ =>
    rw [hn]
    exact h.serves_interrupt.bind fun _ h => h.serves_beginContinuation s.turn_interrupt _ _ _
  | @decidesAll decision _ rest _ _ =>
    have hb (log : List StreamMark) (h : s.interrupt.Accounted log) :
        s.interrupt.Serves log (s.bulkBegun rest ⟨0, rest.length + 1, decision⟩) :=
      h.serves ((acts_tell _ _).of_outbox_eq rfl) rfl (Nat.le_refl _)
    rw [hn]
    refine (h.serves_interrupt.bind hb).bind fun _ h => ?_
    exact h.serves_beginContinuation s.turn_interrupt _ _ _
  | hydrates _ =>
    rw [hn]
    exact h.serves (acts_of_tellings rfl) rfl (Nat.le_refl _)
  | shutsDown =>
    rw [hn]
    exact h.serves_interrupt.bind fun _ h => h.serves_setPhase .idle

/-! ## Every run -/

/-- What is known of a session that comes with a history: the log accounts for its
    streams, and agrees with what was done to the outside. -/
structure Logged (h : List Transition) (s : Session) : Prop where
  coherent : s.Coherent
  accounted : s.Accounted (h.flatMap Transition.marks)
  opened_eq : opened (h.flatMap Transition.marks) = (openings s.outbox).map (·.1)
  cancelled_eq : StreamLog.cancelled (h.flatMap Transition.marks) = cancellations s.outbox

theorem logged_start (conversationId : String) (interval now : Nat) (ids : Ids) :
    Logged [] (start conversationId interval now ids) where
  coherent := coherent_start conversationId interval now ids
  accounted := ⟨.start, fun _ hg => absurd hg List.not_mem_nil⟩
  opened_eq := rfl
  cancelled_eq := rfl

theorem opened_ended (t : Transition) : opened t.ended = [] ∧ StreamLog.cancelled t.ended = [] := by
  unfold Transition.ended
  split
  · split
    · exact ⟨rfl, rfl⟩
    · exact ⟨rfl, rfl⟩
  · exact ⟨rfl, rfl⟩

theorem Logged.react {h : List Transition} (hs : Logged h s) (i : Input) :
    Logged (h ++ [s.transition i]) (s.react i).2 := by
  obtain ⟨as, ha, hl⟩ := hs.accounted.reaction hs.coherent (s.reaction i)
  obtain ⟨ho, rfl⟩ := ha.effects
  have hm : (h ++ [s.transition i]).flatMap Transition.marks =
      h.flatMap Transition.marks ++ ((s.transition i).ended ++
        (s.transition i).effects.filterMap mark?) := by
    rw [List.flatMap_append, List.flatMap_singleton]
    rfl
  -- An input that ends a stream neither opens one nor gives one up by that.
  have he := opened_ended (s.transition i)
  rw [marks_acts, List.append_assoc, ← hm] at hl
  refine ⟨hs.coherent.react i, hl, ?_, ?_⟩
  · rw [hm, opened_append, opened_append, he.1, opened_marks, hs.opened_eq, ho, openings_append,
      List.map_append, List.nil_append]
  · rw [hm, cancelled_append, cancelled_append, he.2, cancelled_marks, hs.cancelled_eq, ho,
      cancellations, cancellations, cancellations, List.filterMap_append, List.nil_append]

theorem logged_run (conversationId : String) (interval now : Nat) (ids : Ids)
    (inputs : List Input) :
    Logged ((start conversationId interval now ids).history inputs)
      ((start conversationId interval now ids).run inputs) :=
  history_induction (logged_start conversationId interval now ids)
    fun _ _ i _ hs => hs.react i

/-- The live stream of a log that accounts for a session is that of its turn. -/
theorem Accounted.turn_of_live (h : s.Accounted log) {g : Nat} (hg : g ∈ live log) :
    s.turn.map (·.generation) = some g := by
  rwa [h.alternates.live_eq, Option.mem_toList] at hg

/-- At most one stream is live, whatever the inputs, where the log is what was done to
    the outside and which terminal events were applied. Streams are opened with
    increasing generations. A stream is live exactly if it is that of the active turn,
    and it is the one opened last. No stream is live when another is opened, no stream
    that ended is given up, and a stream that did not end is given up once it is not
    that of the turn. -/
theorem one_live_stream (conversationId : String) (interval now : Nat) (ids : Ids)
    (inputs : List Input) :
    let s := (start conversationId interval now ids).run inputs
    let log := (start conversationId interval now ids).streamLog inputs
    opened log = (openings s.outbox).map (·.1) ∧ StreamLog.cancelled log = cancellations s.outbox ∧
      (opened log).Pairwise (· < ·) ∧
      live log = (s.turn.map (·.generation)).toList ∧
      (∀ g ∈ live log, (opened log).getLast? = some g) ∧
      (∀ before g after, log = before ++ .opened g :: after → live before = []) ∧
      (∀ g ∈ StreamLog.ended log, g ∉ StreamLog.cancelled log) ∧
      ∀ g ∈ opened log, g ∉ StreamLog.ended log → s.turn.map (·.generation) ≠ some g →
        g ∈ StreamLog.cancelled log := by
  intro s log
  have h : Logged _ s := logged_run conversationId interval now ids inputs
  have ha : Alternates log (s.turn.map (·.generation)) := h.accounted.alternates
  refine ⟨h.opened_eq, h.cancelled_eq, ha.pairwise_opened, ha.live_eq, ?_, ?_,
    ha.not_cancelled_of_ended, ?_⟩
  · intro g hg
    have ht := h.accounted.turn_of_live hg
    rw [ht] at ha
    exact ha.getLast?_opened
  · intro before g after hl
    exact ha.live_of_opened hl
  · -- It would be live if it were not given up, and so be that of the turn.
    intro g hg he ht
    refine Decidable.byContradiction fun hc => ht ?_
    exact h.accounted.turn_of_live (List.mem_filter.2 ⟨hg, decide_eq_true ⟨hc, he⟩⟩)

/-! ## The parts of a session -/

/-- The stream of the turn was opened last, with the generation of the session. -/
theorem Logged.openings {h : List Transition} (hs : Logged h s) {turn : ActiveTurn}
    (ht : s.turn = some turn) :
    ∃ request, (openings s.outbox).getLast? = some (s.generation, request) := by
  have hl := (hs.accounted.of_turn ht).getLast?_opened
  rw [hs.opened_eq, List.getLast?_map, hs.coherent.generation turn ht] at hl
  obtain ⟨⟨generation, request⟩, ho, rfl⟩ := Option.map_eq_some_iff.1 hl
  exact ⟨request, ho⟩

/-- Between inputs the parts of a session agree, whatever the inputs were. The session
    is never cancelling, it is idle exactly if it has no turn, and it is draining
    approvals exactly if a bulk decision runs. The stream of the turn was opened with
    the generation of the session. A message is in progress only while there is a turn,
    it belongs to that generation, and it alone is streaming. -/
theorem parts_agree (conversationId : String) (interval now : Nat) (ids : Ids)
    (inputs : List Input) :
    let s := (start conversationId interval now ids).run inputs
    s.phase ≠ .cancelling ∧
      (s.phase = .idle ↔ s.turn = none) ∧
      (s.phase = .drainingApprovals ↔ s.approvals.progress ≠ none) ∧
      (∀ turn ∈ s.turn, turn.generation = s.generation ∧
        ∃ request, (Effect.openings s.outbox).getLast? = some (s.generation, request)) ∧
      (∀ p ∈ s.transcript.inProgress,
        s.turn ≠ none ∧ p.generation = s.generation ∧ p.message.streaming = true) ∧
      ∀ m ∈ s.transcript.finalized, m.streaming = false := by
  intro s
  have h : Logged _ s := logged_run conversationId interval now ids inputs
  have hc := h.coherent
  refine ⟨hc.phase_ne, hc.idle_iff, hc.draining_iff, ?_, ?_, hc.marked.finalized⟩
  · intro turn ht
    exact ⟨hc.generation turn ht, h.openings ht⟩
  · intro p hp
    refine ⟨hc.turn_ne ?_, hc.belongsTo p hp, hc.marked.inProgress p hp⟩
    rw [hp]
    exact Option.some_ne_none p

end Session

end Dialogue
