import Dialogue.Proofs.Session.TurnLog

/-!
# Every stream has one fate

Every stream that is opened completes, fails, is cancelled or is followed by the next
continuation of a bulk decision, and only one of them; that is told before anything else is
opened. How many streams were opened is therefore known from the outcomes that were told.

* `Yields`: what an operation does to turns, with `yields_interrupt` and `yields_openStream`;
* `Transition.Turns`: how one input goes on from the stream of the turn, which it leaves alone
  or brings to one fate (`Coherent.turns`);
* `fated_run`: so streams follow each other after any inputs;
* `every_stream_has_one_fate`: what that means for each stream and for their number.
-/

namespace Dialogue

/-! ## Telling outcomes -/

namespace Update

theorem outcomes_map {α : Type} {f : α → Update} (h : ∀ a, (f a).outcome? = none) (as : List α) :
    (as.map f).filterMap outcome? = [] := by
  rw [List.filterMap_map, List.filterMap_eq_nil_iff]
  exact fun a _ => h a

theorem outcomes_bulk (step : BulkStep) : step.updates.filterMap outcome? = [] := by
  cases step <;> rfl

end Update

namespace Effect

theorem turnMarks_tellings (us : List Update) :
    (tellings us).filterMap turnMark? = (us.filterMap Update.outcome?).map .announced := by
  rw [tellings, List.filterMap_map, List.map_filterMap]
  rfl

theorem turnMarks_cons_opened (generation : Nat) (request : Request) (es : List Effect) :
    (opened generation request :: es).filterMap turnMark? =
      .opened generation request :: es.filterMap turnMark? := rfl

theorem turnMarks_cons_cancelled (generation : Nat) (es : List Effect) :
    (cancelled generation :: es).filterMap turnMark? =
      .cancelled generation :: es.filterMap turnMark? := rfl

theorem turnMarks_stops (conversationId : String) (runIds : List String) :
    (runIds.map (stopRequested conversationId)).filterMap turnMark? = [] := by
  rw [List.filterMap_map, List.filterMap_eq_nil_iff]
  exact fun _ _ => rfl

/-- The streams that the marks of effects open are those that the effects open. -/
theorem opened_turnMarks (es : List Effect) :
    TurnLog.opened (es.filterMap turnMark?) = openings es := by
  rw [TurnLog.opened, openings, List.filterMap_filterMap]
  congr 1
  funext e
  cases e with
  | told u => cases u <;> rfl
  | _ => rfl

/-- The outcomes that the marks of effects announce are those that the effects tell. -/
theorem announced_turnMarks (es : List Effect) :
    TurnLog.announced (es.filterMap turnMark?) = outcomes es := by
  rw [TurnLog.announced, outcomes, updates, List.filterMap_filterMap, List.filterMap_filterMap]
  congr 1
  funext e
  cases e with
  | told u => cases u <;> rfl
  | _ => rfl

end Effect

namespace Session

open Effect

variable {s s' s'' : Session} {marks marks' : List TurnMark} {i : Input}

theorem outcomes_phaseUpdates (old new : Phase) :
    (phaseUpdates old new).filterMap Update.outcome? = [] := by
  rw [phaseUpdates]
  split <;> rfl

theorem outcomes_finalUpdates (s : Session) (base : Usage) :
    (s.finalUpdates base).filterMap Update.outcome? = [] := by
  rw [finalUpdates, List.filterMap_append, Update.outcomes_map fun _ => rfl]
  rfl

theorem outcomes_abortUpdates (s : Session) : s.abortUpdates.filterMap Update.outcome? = [] := by
  rw [abortUpdates]
  split <;> rfl

/-! ## What operations do to turns -/

/-- From one session to another the outbox grew, and this is what was done to turns. -/
def Yields (s s' : Session) (marks : List TurnMark) : Prop :=
  ∃ es, s'.outbox = s.outbox ++ es ∧ es.filterMap turnMark? = marks

theorem Yields.trans (h : s.Yields s' marks) (h' : s'.Yields s'' marks') :
    s.Yields s'' (marks ++ marks') := by
  obtain ⟨es, he, rfl⟩ := h
  obtain ⟨fs, hf, rfl⟩ := h'
  exact ⟨es ++ fs, by rw [hf, he, List.append_assoc], List.filterMap_append⟩

theorem yields_of_tellings {us : List Update} (h : s'.outbox = s.outbox ++ tellings us) :
    s.Yields s' ((us.filterMap Update.outcome?).map .announced) :=
  ⟨_, h, turnMarks_tellings us⟩

/-- Nothing was done to turns if no outcome was told. -/
theorem yields_nil {us : List Update} (h : s'.outbox = s.outbox ++ tellings us)
    (hu : us.filterMap Update.outcome? = []) : s.Yields s' [] := by
  have hy := yields_of_tellings h
  rwa [hu] at hy

theorem yields_of_outbox_eq (h : s'.outbox = s.outbox) : s.Yields s' [] :=
  ⟨[], by rw [h, List.append_nil], rfl⟩

/-- What an input yields are the marks of its effects. -/
theorem Yields.effects (h : s.Yields (s.react i).2 marks) :
    (s.react i).2.outbox = s.outbox ++ (s.transition i).effects ∧
      (s.transition i).effects.filterMap turnMark? = marks := by
  obtain ⟨es, ho, hm⟩ := h
  have he : (s.transition i).effects = es := by
    rw [transition, ho]
    exact List.drop_left
  rw [he]
  exact ⟨ho, hm⟩

theorem yields_setPhase (s : Session) (p : Phase) : s.Yields (s.setPhase p) [] := by
  rw [setPhase_eq]
  exact yields_nil rfl (outcomes_phaseUpdates _ _)

theorem yields_withQueue (s : Session) (q : InputQueue) : s.Yields (s.withQueue q) [] :=
  yields_nil rfl rfl

theorem yields_openStream (s : Session) (kind : TurnKind) (request : Request)
    (resumed : Option Message) :
    s.Yields (s.openStream kind request resumed) [.opened (s.generation + 1) request] := by
  rw [openStream_eq]
  refine ⟨_, rfl, ?_⟩
  rw [List.filterMap_append, turnMarks_tellings, Update.outcomes_map fun _ => rfl,
    turnMarks_cons_opened, turnMarks_tellings, outcomes_phaseUpdates]
  rfl

/-- From one session to another a stream was opened, which is now that of the turn. -/
def Opens (s s' : Session) : Prop :=
  ∃ generation request, s.Yields s' [.opened generation request] ∧
    s'.turn.map (·.generation) = some generation

theorem Opens.after (h : s'.Opens s'') (hy : s.Yields s' []) : s.Opens s'' := by
  obtain ⟨generation, request, hy', ht⟩ := h
  exact ⟨generation, request, hy.trans hy', ht⟩

theorem opens_openStream (s : Session) (kind : TurnKind) (request : Request)
    (resumed : Option Message) : s.Opens (s.openStream kind request resumed) :=
  ⟨_, _, yields_openStream s kind request resumed, by rw [openStream_eq]; rfl⟩

theorem opens_beginTurn (s : Session) (content : String) : s.Opens (s.beginTurn content) := by
  rw [beginTurn_eq]
  exact (opens_openStream _ _ _ _).after (yields_nil rfl rfl)

theorem yields_beginContinuation (s : Session) (callId : String) (decision : Decision)
    (reason : Option String) : s.Yields (s.beginContinuation callId decision reason)
      [.opened (s.generation + 1) (s.decisionRequest callId decision reason)] := by
  have hw : s.Yields s.withoutResumed [] := yields_of_outbox_eq rfl
  rw [beginContinuation_eq]
  exact hw.trans (yields_openStream s.withoutResumed _ _ _)

theorem turn_beginContinuation (s : Session) (callId : String) (decision : Decision)
    (reason : Option String) :
    (s.beginContinuation callId decision reason).turn.map (·.generation) =
      some (s.generation + 1) := by
  rw [beginContinuation_eq, openStream_eq]
  rfl

theorem opens_beginContinuation (s : Session) (callId : String) (decision : Decision)
    (reason : Option String) : s.Opens (s.beginContinuation callId decision reason) :=
  ⟨_, _, yields_beginContinuation s _ _ _, turn_beginContinuation s _ _ _⟩

/-- Interrupting gives up the stream of the turn, and announces that. -/
theorem yields_interrupt {turn : ActiveTurn} (ht : s.turn = some turn) :
    s.Yields s.interrupt (Fate.cancelled.marks turn.generation) := by
  rw [interrupt_eq ht]
  refine ⟨_, rfl, ?_⟩
  rw [turnMarks_cons_cancelled, List.filterMap_append, turnMarks_stops, turnMarks_tellings,
    interruptUpdates, List.filterMap_append, List.filterMap_append, outcomes_finalUpdates,
    outcomes_abortUpdates]
  rfl

/-- The end of a stream by itself is not announced at once. -/
theorem yields_ended (s : Session) (turn : ActiveTurn) (usage : Usage) (approvals : Coordinator)
    {us : List Update} (hu : us.filterMap Update.outcome? = []) :
    s.Yields (s.ended turn usage approvals us) [] := by
  refine yields_nil rfl ?_
  rw [List.filterMap_append, outcomes_finalUpdates, hu]
  rfl

/-- From one session to another at most one stream was opened, and that only when there was
    no turn. -/
inductive Starts (s s' : Session) : Prop
  | nothing : s.Yields s' [] → s'.turn.map (·.generation) = s.turn.map (·.generation) → Starts s s'
  | stream : s.turn = none → s.Opens s' → Starts s s'

theorem Starts.after (h : s'.Starts s'') (hy : s.Yields s' []) (ht : s'.turn = s.turn) :
    s.Starts s'' := by
  cases h with
  | nothing hy' ht' => exact .nothing (hy.trans hy') (by rw [ht', ht])
  | stream hn ho => exact .stream (ht.symm.trans hn) (ho.after hy)

theorem starts_drainQueue (s : Session) : s.Starts s.drainQueue := by
  rcases s.drainQueue_cases with ⟨hd, _⟩ | ⟨entry, rest, hc, _, hd⟩
  · rw [hd]
    exact .nothing (yields_of_outbox_eq rfl) rfl
  · rw [hd]
    exact .stream hc.noTurn ((opens_beginTurn _ _).after (yields_withQueue _ _))

/-! ## One input -/

end Session

/-- How a transition goes on from the stream of the turn before it, with the stream that is
    open after it. It leaves the stream alone, or opens one where there is none, or brings it
    to a fate, and may open another one then. -/
inductive Transition.Turns (t : Transition) : List TurnMark → Option Nat → Prop
  | keeps : (∀ fate, ¬t.Brings fate) → Turns t [] (t.before.turn.map (·.generation))
  | opens {generation : Nat} {request : Request} : t.before.turn = none →
      Turns t [.opened generation request] (some generation)
  | ends {turn : ActiveTurn} {fate : Fate} : t.before.turn = some turn → t.Brings fate →
      Turns t (fate.marks turn.generation) fate.next?
  | replaces {turn : ActiveTurn} {fate : Fate} {generation : Nat} {request : Request} :
      t.before.turn = some turn → t.Brings fate → fate.next? = none →
      Turns t (fate.marks turn.generation ++ [.opened generation request]) (some generation)

namespace Session

open Effect

variable {s s' s'' : Session} {marks marks' : List TurnMark} {i : Input} {c : Command}

/-- A command brings no fate but that the stream is given up. -/
theorem brings_command {fate : Fate} (h : (s.transition (.command c)).Brings fate) :
    fate = .cancelled ∧ c.interrupts = true ∧ (∃ r, (s.perform c).1 = .ok r) ∧ s.turn ≠ none := by
  cases h with
  | completed hc _ | advanced hc _ _ => exact nomatch hc
  | failed hi _ => exact nomatch hi
  | cancelled hi hc hr ht =>
    obtain rfl := Input.command.inj hi
    exact ⟨rfl, hc, ⟨_, Option.some.inj hr⟩, ht⟩

/-- An event brings no fate unless it is the terminal event of the stream. -/
theorem not_brings_event {e : Envelope}
    (h : s.isLive e.generation = false ∨ e.event.isTerminal = false) (fate : Fate) :
    ¬(s.transition (.event e)).Brings fate := by
  obtain ⟨generation, event⟩ := e
  have hc : (s.transition (.event ⟨generation, event⟩)).completes = false := by
    cases event with
    | completed time => exact h.resolve_right Bool.noConfusion
    | _ => rfl
  intro hb
  cases hb with
  | completed hn _ | advanced hn _ _ => exact Bool.noConfusion (hn.symm.trans hc)
  | failed hi hl =>
    obtain ⟨rfl, rfl⟩ := Envelope.mk.inj (Input.event.inj hi)
    exact h.elim (fun hf => Bool.noConfusion (hl.symm.trans hf)) Bool.noConfusion
  | cancelled hi _ _ _ => exact nomatch hi

theorem terminal_event {e : Envelope}
    (h : s.isLive e.generation = false ∨ e.event.isTerminal = false) :
    (s.transition (.event e)).terminal = [] := by
  obtain ⟨generation, event⟩ := e
  have hn : event.isTerminal = true → ¬s.isLive generation = true :=
    fun he hl => h.elim (fun hf => Bool.noConfusion (hl.symm.trans hf))
      fun hf => Bool.noConfusion (he.symm.trans hf)
  cases event with
  | completed time | error message => exact if_neg (hn rfl)
  | _ => rfl

theorem not_brings_elapse (time : Nat) (fate : Fate) :
    ¬(s.transition (.elapse time)).Brings fate := by
  intro hb
  cases hb with
  | completed hn _ | advanced hn _ _ => exact nomatch hn
  | failed hi _ | cancelled hi _ _ _ => exact nomatch hi

/-- An event that is not terminal does nothing to turns. -/
theorem Writes.yields (h : s.Writes s') : s.Yields s' [] := by
  cases h with
  | nothing _ ho => exact yields_of_outbox_eq ho
  | notes _ ht ho =>
    refine yields_nil ho (List.filterMap_eq_nil_iff.2 fun u hu => ?_)
    have htick := ht u hu
    cases u with
    | usageTick turn session => rfl
    | _ => exact Bool.noConfusion htick
  | goesOn _ _ _ _ ho | begins _ _ _ _ _ ho => exact yields_nil ho rfl

/-- An input goes on from the stream of the turn to that of the turn of another session. -/
def Turns (s : Session) (i : Input) (s' : Session) : Prop :=
  ∃ marks, s.Yields s' marks ∧
    (s.transition i).Turns ((s.transition i).terminal ++ marks) (s'.turn.map (·.generation))

/-- An input that brings no fate leaves the stream alone, or opens one where there is none. -/
theorem Starts.turns (h : s.Starts s') (ht : (s.transition i).terminal = [])
    (hb : ∀ fate, ¬(s.transition i).Brings fate) : s.Turns i s' := by
  cases h with
  | nothing hy hs =>
    refine ⟨_, hy, ?_⟩
    rw [ht, hs]
    exact .keeps hb
  | stream hn ho =>
    obtain ⟨generation, request, hy, hs⟩ := ho
    refine ⟨_, hy, ?_⟩
    rw [ht, hs]
    exact .opens hn

/-- An input that brings a fate may open another stream once that has been announced. -/
theorem Starts.turns_after {turn : ActiveTurn} {fate : Fate} (h : s'.Starts s'')
    (ht : s.turn = some turn) (hb : (s.transition i).Brings fate) (hn : fate.next? = none)
    (hy : s.Yields s' marks) (hs : s'.turn = none)
    (hm : (s.transition i).terminal ++ marks = fate.marks turn.generation) : s.Turns i s'' := by
  cases h with
  | nothing hy' hs' =>
    refine ⟨_, hy.trans hy', ?_⟩
    rw [List.append_nil, hm, hs', hs, Option.map_none, ← hn]
    exact .ends ht hb
  | stream _ ho =>
    obtain ⟨generation, request, hy', hs'⟩ := ho
    refine ⟨_, hy.trans hy', ?_⟩
    rw [← List.append_assoc, hm, hs']
    exact .replaces ht hb hn

/-- A command that is accepted and interrupts the turn gives up its stream, if there is one,
    before it opens another. -/
theorem turns_interrupting {r : Reply} (hc : c.interrupts = true) (hr : (s.perform c).1 = .ok r)
    (hy : s.Yields s' []) (ht : s'.turn = s.turn) (h : s'.interrupt.Starts s'') :
    s.Turns (.command c) s'' := by
  cases hs : s.turn with
  | none =>
    rw [interrupt_of_noTurn (ht.trans hs)] at h
    exact (h.after hy ht).turns rfl fun fate hb => (brings_command hb).2.2.2 hs
  | some turn =>
    have hb : (s.transition (.command c)).Brings .cancelled :=
      .cancelled rfl hc (congrArg some hr) (by rw [transition, hs]; exact Option.some_ne_none turn)
    have hy' := hy.trans (yields_interrupt (ht.trans hs))
    exact h.turns_after hs hb rfl hy' (turn_interrupt s') rfl

/-- A turn that has ended is announced, and then queued input is started. -/
theorem turns_settle {turn : ActiveTurn} {outcome : Outcome} {fate : Fate} (ht : s.turn = some turn)
    (hb : (s.transition i).Brings fate) (hn : fate.next? = none) (hy : s.Yields s' [])
    (hs : s'.turn = none)
    (hm : (s.transition i).terminal ++ [.announced outcome] = fate.marks turn.generation) :
    s.Turns i (s'.settle outcome) := by
  have hr : s'.Yields (s'.rested outcome) [.announced outcome] := by
    have ho : (Update.turnFinished outcome :: phaseUpdates s'.phase .idle).filterMap
        Update.outcome? = [outcome] := congrArg _ (outcomes_phaseUpdates _ _)
    have hr : s'.Yields (s'.rested outcome) _ := yields_of_tellings rfl
    rwa [ho] at hr
  rw [settle_eq]
  exact (starts_drainQueue _).turns_after ht hb hn (hy.trans hr) hs hm

theorem Coherent.turns_complete (h : s.Coherent) (ha : s.approvals.Tallied) {generation : Nat}
    {time : Option Count} (hl : s.isLive generation = true) :
    s.Turns (.event ⟨generation, .completed time⟩) (s.complete time) := by
  let t := s.transition (.event ⟨generation, .completed time⟩)
  obtain ⟨hg, turn, ht⟩ := (s.isLive_iff _).1 hl
  have hterm : t.terminal = [.completed turn.generation] := by
    rw [h.generation turn ht, ← hg]
    exact if_pos hl
  have hc : t.completes = true := hl
  have hadv : t.advancesBulk = s.approvals.progress.any fun p => p.completed + 1 < p.total := by
    rw [Transition.advancesBulk, hc, Bool.true_and]
    rfl
  have hy : s.Yields (s.completed turn time) [] := yields_ended _ _ _ _ (Update.outcomes_bulk _)
  have hlast (hn : ∀ callId decision progress,
      s.approvals.complete.1 ≠ .next callId decision progress) :
      s.Turns (.event ⟨generation, .completed time⟩)
        ((s.completed turn time).releaseImmediate.settle .completed) := by
    have hf : t.advancesBulk = false := by
      rw [hadv, Bool.eq_false_iff, ne_eq, ha.advances_iff]
      exact fun ⟨_, _, _, hs⟩ => hn _ _ _ hs
    exact turns_settle ht (.completed hc hf) rfl
      (hy.trans (yields_of_outbox_eq rfl)) rfl (congrArg (· ++ _) hterm)
  rw [complete_eq ht]
  cases hs : s.approvals.complete.1 with
  | next callId decision progress =>
    obtain ⟨waiting, p, hp, rfl⟩ := Coordinator.of_complete_next hs
    have hb : t.Brings _ := .advanced hc (hadv.trans (ha.advances_iff.2 ⟨_, _, _, hs⟩)) hp
    refine ⟨_, hy.trans (yields_beginContinuation (s.completed turn time) _ _ _), ?_⟩
    rw [turn_beginContinuation, List.nil_append]
    exact (congrArg (· ++ _) hterm) ▸ .ends ht hb
  | finished progress => exact hlast fun _ _ _ hn => nomatch hs.symm.trans hn
  | idle => exact hlast fun _ _ _ hn => nomatch hs.symm.trans hn

theorem Coherent.turns_fail (h : s.Coherent) {generation : Nat} {message : String}
    (hl : s.isLive generation = true) :
    s.Turns (.event ⟨generation, .error message⟩) (s.fail message) := by
  obtain ⟨hg, turn, ht⟩ := (s.isLive_iff _).1 hl
  have hterm : (s.transition (.event ⟨generation, .error message⟩)).terminal =
      [.failed turn.generation message] := by
    rw [h.generation turn ht, ← hg]
    exact if_pos hl
  have hy : s.Yields (s.failed turn message) [] :=
    (yields_ended s turn s.usage {} (outcomes_abortUpdates s)).trans (yields_of_outbox_eq rfl)
  rw [fail_eq ht]
  exact turns_settle ht (.failed rfl hl) rfl hy rfl (congrArg (· ++ _) hterm)

/-- Every way of taking an input goes on from the stream of the turn to that of the turn
    after it. -/
theorem Coherent.turns_of_reaction (h : s.Coherent) (ha : s.approvals.Tallied)
    {r : Option (Except Error Reply)} (hr : s.Reaction i r s') (hi : (s.react i).1 = r) :
    s.Turns i s' := by
  have hself : s.Starts s := .nothing (yields_of_outbox_eq rfl) rfl
  have hr' {c : Command} {r : Except Error Reply} (hi : (s.react (.command c)).1 = some r) :
    (s.perform c).1 = r := Option.some.inj hi
  -- What does not interrupt brings no fate.
  have hn {c : Command} (hc : c.interrupts = false) (fate : Fate) :
      ¬(s.transition (.command c)).Brings fate :=
    fun hb => Bool.noConfusion (hc.symm.trans (brings_command hb).2.1)
  cases hr with
  | refuses _ =>
    refine hself.turns rfl fun fate hb => ?_
    obtain ⟨_, _, ⟨_, hok⟩, _⟩ := brings_command hb
    exact nomatch (hr' hi).symm.trans hok
  | ignores hi =>
    cases hi with
    | snapshot => exact hself.turns rfl (hn rfl)
    | hydrate _ => exact hself.turns rfl (hn rfl)
    | event hl => exact hself.turns (terminal_event (.inl hl)) (not_brings_event (.inl hl))
  | @waits time =>
    have hw : s.Starts (s.elapse time) := .nothing (yields_of_outbox_eq rfl) rfl
    exact hw.turns rfl (not_brings_elapse time)
  | writes _ he =>
    obtain ⟨runId, ht⟩ := (continues_apply s he).turn
    have hw : s.Starts (s.apply _) := .nothing (writes_apply h.belongsTo he).yields
      (by rw [ht, Option.map_map]; rfl)
    exact hw.turns (terminal_event (.inr he)) (not_brings_event (.inr he))
  | completes hl => exact h.turns_complete ha hl
  | fails hl => exact h.turns_fail hl
  | @starts content _ hp _ =>
    have ho : s.Starts (s.beginTurn content) := .stream (h.idle_iff.1 hp) (opens_beginTurn s _)
    exact ho.turns rfl (hn rfl)
  | @queues content _ _ =>
    have hq : s.Yields (s.withQueued content) [] := yields_nil rfl rfl
    exact ((starts_drainQueue _).after hq rfl).turns rfl (hn rfl)
  | @restarts content _ =>
    have ho : s.interrupt.Opens (s.interrupt.releaseImmediate.beginTurn content) :=
      (opens_beginTurn s.interrupt.releaseImmediate _).after (yields_of_outbox_eq rfl)
    exact turns_interrupting rfl (hr' hi) (yields_of_outbox_eq rfl) rfl
      (.stream s.turn_interrupt ho)
  | @pulls _ entry before after _ _ _ _ =>
    have hw := s.yields_withQueue ⟨before ++ after, true⟩
    exact turns_interrupting rfl (hr' hi) hw rfl (.stream (turn_interrupt _) (opens_beginTurn _ _))
  | @removes _ _ before after _ _ _ =>
    have hw : s.Starts (s.withQueue { s.queue with entries := before ++ after }) :=
      .nothing (yields_withQueue _ _) rfl
    exact hw.turns rfl (hn rfl)
  | restsOn ht =>
    have ho : s.Starts s.releaseImmediate.abortApprovals := by
      rw [abortApprovals_eq]
      exact .nothing (yields_nil rfl (outcomes_abortUpdates _)) rfl
    exact ho.turns rfl fun fate hb => (brings_command hb).2.2.2 ht
  | cancels _ =>
    have hp : s.Yields (s.releaseImmediate.setPhase .cancelling) [] :=
      (yields_of_outbox_eq rfl).trans (yields_setPhase s.releaseImmediate _)
    have hd : s.cancelled.Starts (s.cancelled.setPhase .idle).drainQueue :=
      (starts_drainQueue _).after (yields_setPhase _ _) (by rw [setPhase_eq])
    exact turns_interrupting rfl (hr' hi) hp (by rw [setPhase_eq]; rfl) hd
  | decides _ =>
    exact turns_interrupting rfl (hr' hi) (yields_of_outbox_eq rfl) rfl
      (.stream s.turn_interrupt (opens_beginContinuation _ _ _ _))
  | @decidesAll decision _ rest _ _ =>
    have hb : s.interrupt.Yields (s.bulkBegun rest ⟨0, rest.length + 1, decision⟩) [] := by
      rw [bulkBegun, tell_eq]
      exact yields_nil rfl rfl
    exact turns_interrupting rfl (hr' hi) (yields_of_outbox_eq rfl) rfl
      (.stream s.turn_interrupt ((opens_beginContinuation _ _ _ _).after hb))
  | @hydrates messages _ =>
    have ho : s.Starts (s.hydrated messages) :=
      .nothing (yields_nil rfl (Update.outcomes_map (f := .messageFinalized) (fun _ => rfl) _)) rfl
    exact ho.turns rfl (hn rfl)
  | shutsDown =>
    exact turns_interrupting rfl (hr' hi) (yields_of_outbox_eq rfl) rfl
      (.nothing (yields_setPhase _ _) (by rw [setPhase_eq]))

theorem Coherent.tallied (h : s.Coherent) (ha : s.approvals.Tallied) (i : Input) :
    (s.react i).2.approvals.Tallied := by
  rcases s.spares_or_aborts i with hs | hs
  · cases hn : (s.transition i).completes with
    | false =>
      rw [(hs.undisturbed hn).approvals]
      exact ha
    | true =>
      obtain ⟨generation, time, rfl, hl⟩ := (s.completes_iff i).1 hn
      obtain ⟨_, turn, ht⟩ := (s.isLive_iff _).1 hl
      have hr : (s.react (.event ⟨generation, .completed time⟩)).2 = s.complete time :=
        handle_of_live hl
      have hc : (s.completed turn time).approvals.Tallied := ha.complete
      rw [hr, complete_eq ht]
      split
      · rw [approvals_beginContinuation]
        exact hc
      · rw [approvals_settle]
        exact hc
  · by_cases hb : (s.transition i).BeginsBulk
    · obtain ⟨progress, hp⟩ := hb
      have hr := s.reaction i
      rw [show (s.react i).1 = some (.ok (.progress progress)) from hp] at hr
      generalize (s.react i).2 = s' at hr
      cases hr with
      | ignores hi => cases hi
      | decidesAll _ _ =>
        rw [approvals_beginContinuation]
        exact Coordinator.tallied_begun _ _
    · exact Coordinator.tallied_of_none (hs.ends h hb).1

end Session

namespace Transition

variable {t : Transition} {marks : List TurnMark} {last : Option Nat} {fate fate' : Fate}

theorem input_of_completes (h : t.completes = true) : ∃ generation time,
    t.input = .event ⟨generation, .completed time⟩ ∧ t.before.isLive generation = true := by
  rw [completes] at h
  split at h
  · next generation time hi => exact ⟨generation, time, hi, h⟩
  · exact absurd h Bool.noConfusion

theorem completes_of_advancesBulk (h : t.advancesBulk = true) : t.completes = true :=
  (Bool.and_eq_true_iff.1 h).1

theorem turn_ne_of_completes (h : t.completes = true) : t.before.turn ≠ none := by
  obtain ⟨generation, _, _, hl⟩ := input_of_completes h
  obtain ⟨_, turn, ht⟩ := (t.before.isLive_iff generation).1 hl
  rw [ht]
  exact Option.some_ne_none turn

/-- The stream goes on to the next call exactly if the input advances a bulk decision. -/
theorem Brings.advancesBulk (h : t.Brings fate) : t.advancesBulk = fate.next?.isSome := by
  have hn (hi : ∀ generation time, t.input ≠ .event ⟨generation, .completed time⟩) :
      t.advancesBulk = false := by
    refine Bool.eq_false_iff.2 fun ha => ?_
    obtain ⟨_, _, he, _⟩ := input_of_completes (completes_of_advancesBulk ha)
    exact hi _ _ he
  cases h with
  | completed _ ha | advanced _ ha _ => exact ha
  | failed hi _ | cancelled hi _ _ _ => exact hn fun _ _ he => nomatch hi.symm.trans he

/-- An input that advances a bulk decision has a call to go on to. -/
theorem exists_brings (h : t.advancesBulk = true) (ha : t.before.approvals.Tallied) :
    ∃ fate, t.Brings fate := by
  obtain ⟨hc, hp⟩ := Bool.and_eq_true_iff.1 h
  obtain ⟨callId, decision, progress, hs⟩ := ha.advances_iff.1 hp
  obtain ⟨waiting, p, hp, _⟩ := Coordinator.of_complete_next hs
  exact ⟨_, .advanced hc h hp⟩

/-- A transition brings one fate at most. -/
theorem Brings.unique (h : t.Brings fate) (h' : t.Brings fate') : fate = fate' := by
  cases h with
  | completed hc ha =>
    obtain ⟨_, _, hi, _⟩ := input_of_completes hc
    cases h' with
    | completed _ _ => rfl
    | failed hi' _ | cancelled hi' _ _ _ => exact nomatch hi.symm.trans hi'
    | advanced _ ha' _ => exact Bool.noConfusion (ha.symm.trans ha')
  | failed hi _ =>
    cases h' with
    | completed hc' _ | advanced hc' _ _ =>
      obtain ⟨_, _, hi', _⟩ := input_of_completes hc'
      exact nomatch hi.symm.trans hi'
    | failed hi' _ =>
      obtain ⟨_, he⟩ := Envelope.mk.inj (Input.event.inj (hi.symm.trans hi'))
      rw [TurnEvent.error.inj he]
    | cancelled hi' _ _ _ => exact nomatch hi.symm.trans hi'
  | cancelled hi _ _ _ =>
    cases h' with
    | completed hc' _ | advanced hc' _ _ =>
      obtain ⟨_, _, hi', _⟩ := input_of_completes hc'
      exact nomatch hi.symm.trans hi'
    | failed hi' _ => exact nomatch hi.symm.trans hi'
    | cancelled _ _ _ _ => rfl
  | advanced hc ha hp =>
    obtain ⟨_, _, hi, _⟩ := input_of_completes hc
    cases h' with
    | completed _ ha' => exact Bool.noConfusion (ha.symm.trans ha')
    | failed hi' _ | cancelled hi' _ _ _ => exact nomatch hi.symm.trans hi'
    | advanced _ _ hp' =>
      obtain ⟨hw, hq⟩ := Coordinator.mk.inj (hp.symm.trans hp')
      rw [(List.cons.inj hw).1, Option.some.inj hq]

theorem Turns.follows (h : t.Turns marks last) :
    TurnLog.Follows (t.before.turn.map (·.generation)) marks last := by
  cases h with
  | keeps _ => exact .nil
  | opens ht =>
    rw [ht]
    exact .opened .nil
  | ends ht _ =>
    rw [ht, ← List.append_nil (Fate.marks _ _)]
    exact .fate .nil
  | replaces ht _ hn =>
    rw [ht]
    refine .fate ?_
    rw [hn]
    exact .opened .nil

/-- The fate of the stream of the turn is the one that the input brings. -/
theorem Turns.brings_iff (h : t.Turns marks last) {turn : ActiveTurn}
    (ht : t.before.turn = some turn) : fate.marks turn.generation <+: marks ↔ t.Brings fate := by
  have hu {turn' : ActiveTurn} {fate' : Fate} (ht' : t.before.turn = some turn')
      (hb : t.Brings fate') (rest : List TurnMark) :
      fate.marks turn.generation <+: fate'.marks turn'.generation ++ rest ↔ t.Brings fate := by
    obtain rfl := Option.some.inj (ht.symm.trans ht')
    have hp : fate'.marks turn.generation <+: fate'.marks turn.generation ++ rest :=
      List.prefix_append _ _
    exact ⟨fun h => Fate.eq_of_marks_isPrefix h hp ▸ hb, fun h => h.unique hb ▸ hp⟩
  cases h with
  | keeps hn =>
    refine ⟨fun hp => ?_, fun hb => absurd hb (hn fate)⟩
    have hl := fate.length_marks turn.generation
    rw [List.prefix_nil.1 hp] at hl
    exact nomatch hl
  | opens hn => exact nomatch ht.symm.trans hn
  | ends ht' hb =>
    have h := hu ht' hb []
    rwa [List.append_nil] at h
  | replaces ht' hb _ => exact hu ht' hb _

/-- A stream more was opened for each outcome that was announced and each bulk decision that
    advanced, and for the one that is open now if none was before. -/
theorem Turns.count (h : t.Turns marks last) (ha : t.before.approvals.Tallied) :
    (TurnLog.opened marks).length + (t.before.turn.map (·.generation)).toList.length =
      (TurnLog.announced marks).length + (if t.advancesBulk then 1 else 0) +
        last.toList.length := by
  cases h with
  | keeps hn =>
    have hf : ¬t.advancesBulk = true := fun h => (exists_brings h ha).elim hn
    rw [if_neg hf]
    rfl
  | opens ht =>
    have hf : ¬t.advancesBulk = true := fun h =>
      turn_ne_of_completes (completes_of_advancesBulk h) ht
    rw [if_neg hf, ht]
    rfl
  | @ends turn fate ht hb =>
    rw [hb.advancesBulk, ht]
    cases fate <;> rfl
  | @replaces turn fate _ _ ht hb hn =>
    rw [hb.advancesBulk, ht]
    cases fate with
    | advanced next request => exact nomatch hn
    | _ => rfl

end Transition

namespace Session

open Effect TurnLog

variable {s : Session} {h : List Transition}

/-! ## Every run -/

/-- What is known of a session that comes with a history: streams follow each other up to
    that of the turn, the log of its turns agrees with what was done to the outside, and each
    transition brought the fate that it should. -/
structure Fated (h : List Transition) (s : Session) : Prop where
  coherent : s.Coherent
  tallied : s.approvals.Tallied
  follows : Follows none (h.flatMap Transition.turnMarks) (s.turn.map (·.generation))
  opened_eq : opened (h.flatMap Transition.turnMarks) = openings s.outbox
  announced_eq : announced (h.flatMap Transition.turnMarks) = outcomes s.outbox
  count : (opened (h.flatMap Transition.turnMarks)).length =
    (announced (h.flatMap Transition.turnMarks)).length + h.countP Transition.advancesBulk +
      (s.turn.map (·.generation)).toList.length
  brings : ∀ t ∈ h, ∀ turn ∈ t.before.turn, ∀ fate : Fate,
    fate.marks turn.generation <+: t.turnMarks ↔ t.Brings fate

theorem fated_start (conversationId : String) (interval now : Nat) (ids : Ids) :
    Fated [] (start conversationId interval now ids) where
  coherent := coherent_start conversationId interval now ids
  tallied := Coordinator.tallied_of_none rfl
  follows := .nil
  opened_eq := rfl
  announced_eq := rfl
  count := rfl
  brings := List.forall_mem_nil _

theorem outcomes_append (as bs : List Effect) :
    outcomes (as ++ bs) = outcomes as ++ outcomes bs := by
  rw [outcomes, updates, List.filterMap_append, List.filterMap_append]
  rfl

theorem opened_terminal (t : Transition) : opened t.terminal = [] ∧ announced t.terminal = [] := by
  unfold Transition.terminal
  split
  · split <;> exact ⟨rfl, rfl⟩
  · split <;> exact ⟨rfl, rfl⟩
  · exact ⟨rfl, rfl⟩

theorem Fated.react (hs : Fated h s) (i : Input) : Fated (h ++ [s.transition i]) (s.react i).2 := by
  obtain ⟨marks, hy, ht⟩ := hs.coherent.turns_of_reaction hs.tallied (s.reaction i) rfl
  obtain ⟨ho, hm⟩ := hy.effects
  have ht : (s.transition i).Turns (s.transition i).turnMarks
      ((s.react i).2.turn.map (·.generation)) := by
    rw [Transition.turnMarks, hm]
    exact ht
  have hl : (h ++ [s.transition i]).flatMap Transition.turnMarks =
      h.flatMap Transition.turnMarks ++ (s.transition i).turnMarks := by
    rw [List.flatMap_append, List.flatMap_singleton]
  obtain ⟨hterm, hterm'⟩ := opened_terminal (s.transition i)
  refine ⟨hs.coherent.react i, hs.coherent.tallied hs.tallied i, ?_, ?_, ?_, ?_, ?_⟩
  · rw [hl]
    exact hs.follows.append ht.follows
  · rw [hl, opened_append, hs.opened_eq, Transition.turnMarks, opened_append, hterm,
      List.nil_append, opened_turnMarks, ho, openings_append]
  · rw [hl, announced_append, hs.announced_eq, Transition.turnMarks, announced_append, hterm',
      List.nil_append, announced_turnMarks, ho, outcomes_append]
  · have hc := ht.count hs.tallied
    have hc' := hs.count
    rw [hl, opened_append, announced_append, List.length_append, List.length_append,
      List.countP_append, List.countP_singleton]
    -- The stream that was open before is counted in the one equation and taken in the other.
    have hb : (s.transition i).before = s := rfl
    rw [hb] at hc
    omega
  · rw [List.forall_mem_append]
    exact ⟨hs.brings, List.forall_mem_singleton.2 fun turn hturn fate => ht.brings_iff hturn⟩

theorem fated_run (conversationId : String) (interval now : Nat) (ids : Ids)
    (inputs : List Input) :
    Fated ((start conversationId interval now ids).history inputs)
      ((start conversationId interval now ids).run inputs) :=
  history_induction (fated_start conversationId interval now ids) fun _ _ i _ hs => hs.react i

/-- Every stream that is opened has exactly one fate, whatever the inputs. In the log of what
    became of turns, which has every stream that was opened and every outcome that was told,
    the opening of a stream is followed at once by the two marks of its fate, and by no other's,
    unless it is the last mark and the stream is that of the turn. Every outcome that is told
    is the fate of a stream that was opened just before.

    The stream of the turn meets the fate that the input brings: its completion, its failure
    with the message of the event, the interruption by a command that is accepted, or, if it
    completes one of the calls of a bulk decision but the last, the continuation for the next
    call. So the streams that were opened are as many as the outcomes that were told, the
    bulk decisions that advanced, and the turn that is active. -/
theorem every_stream_has_one_fate (conversationId : String) (interval now : Nat) (ids : Ids)
    (inputs : List Input) :
    let s := (start conversationId interval now ids).run inputs
    let h := (start conversationId interval now ids).history inputs
    let log := (start conversationId interval now ids).turnLog inputs
    opened log = openings s.outbox ∧ announced log = outcomes s.outbox ∧
      (∀ before g request after, log = before ++ .opened g request :: after →
        (after = [] ∧ s.turn.map (·.generation) = some g) ∨
          ∃! fate : Fate, fate.marks g <+: after) ∧
      (∀ before outcome after, log = before ++ .announced outcome :: after →
        ∃ earlier g request fate,
          before ++ [.announced outcome] = earlier ++ .opened g request :: Fate.marks g fate) ∧
      (∀ t ∈ h, ∀ turn ∈ t.before.turn, ∀ fate : Fate,
        fate.marks turn.generation <+: t.turnMarks ↔ t.Brings fate) ∧
      (openings s.outbox).length = (outcomes s.outbox).length +
        h.countP Transition.advancesBulk + (if s.turn.isSome then 1 else 0) := by
  intro s h log
  have hs : Fated h s := fated_run conversationId interval now ids inputs
  refine ⟨hs.opened_eq, hs.announced_eq, ?_, ?_, hs.brings, ?_⟩
  · intro before g request after hl
    exact hs.follows.fate_of_opened hl
  · intro before outcome after hl
    exact hs.follows.opened_of_announced hl [] fun g hg => absurd hg (Option.not_mem_none g)
  · have hc := hs.count
    rw [hs.opened_eq, hs.announced_eq] at hc
    rw [hc]
    cases s.turn <;> rfl

end Session

end Dialogue
