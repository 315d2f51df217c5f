import Dialogue.Proofs.Session.Renewing
import Dialogue.Proofs.Session.Throttling
import Dialogue.Proofs.Session.Watching

/-!
# The last account of a stream is told

Updates about the account are throttled while a stream runs, but not when it ends. Whichever
way it ends, its account is told then, before the outcome of the turn or the stream that takes
its place, and with all that was reported over the stream.

* `Summed`: what the stream of the turn has used is the fold of what was reported over it, as
  read off the history, from the start on (`summed_run`);
* `TellsLast`: the account is told after the message is finalized and before anything is
  concluded, with `tellsLast_interrupt` and `tellsLast_ended`;
* `Coherent.tellsLast`: so it is for every input that ends the stream of the turn;
* `throttling_changes_ticks_only`: two sessions that are throttled differently do the same, and
  both tell the last account of every stream.
-/

namespace Dialogue

/-- What an event adds to the account of its stream: the report about the main model call, or
    the time to the first token. -/
def TurnEvent.delta? : TurnEvent → Option Usage
  | .usage report .main => some report
  | .firstToken time => some (.ofFirstToken time)
  | _ => none

/-- What a transition that completes the stream of the turn adds to its account: the time to
    the whole response, which is measured if the server gives none. -/
def Transition.response (t : Transition) : List Usage :=
  match t.input with
  | .event ⟨generation, .completed time⟩ =>
    if t.before.isLive generation then
      t.before.turn.toList.map fun turn =>
        .ofResponse (time.getD (Count.ofNat (t.before.now - turn.startedAt)))
    else []
  | _ => []

/-- What was added to the account of a stream, in order. -/
def deltasOf (h : List Transition) (generation : Nat) : List Usage :=
  (eventsOf h generation).filterMap TurnEvent.delta?

/-- Whether a mark tells the outcome of a turn, or opens a stream. -/
def TurnMark.concludes : TurnMark → Bool
  | .announced _ | .opened .. => true
  | _ => false

namespace Effect

/-- Whether an effect tells the outcome of a turn, or opens a stream. -/
def concludes : Effect → Bool
  | .told (.turnFinished _) | .opened .. => true
  | _ => false

theorem concludes_of_turnMark? {e : Effect} {m : TurnMark} (h : e.turnMark? = some m) :
    e.concludes = m.concludes := by
  cases e with
  | told u =>
    obtain ⟨outcome, hu, rfl⟩ := Option.map_eq_some_iff.1 h
    cases u with
    | turnFinished outcome => rfl
    | _ => exact nomatch hu
  | opened generation request | cancelled generation =>
    obtain rfl := Option.some.inj h
    rfl
  | stopRequested conversationId runId => exact nomatch h

/-- The messages that effects tell to be finalized. -/
def finalizations (es : List Effect) : List Message :=
  (updates es).filterMap fun | .messageFinalized m => some m | _ => none

theorem finalizations_append (as bs : List Effect) :
    finalizations (as ++ bs) = finalizations as ++ finalizations bs := by
  rw [finalizations, updates_append, List.filterMap_append]
  rfl

theorem finalizations_finalized (ms : List Message) :
    finalizations (tellings (ms.map .messageFinalized)) = ms := by
  rw [finalizations, updates_tellings, List.filterMap_map]
  exact List.filterMap_some

theorem not_concludes_finalized (ms : List Message) :
    ∀ e ∈ tellings (ms.map .messageFinalized), e.concludes = false := by
  intro e he
  obtain ⟨u, hu, rfl⟩ := List.mem_map.1 he
  obtain ⟨m, _, rfl⟩ := List.mem_map.1 hu
  rfl

end Effect

namespace Session

open Effect

variable {s s' s'' : Session} {h : List Transition} {i : Input} {usage : Usage}

/-! ## What a stream has used -/

theorem deltasOf_append (h h' : List Transition) (g : Nat) :
    deltasOf (h ++ h') g = deltasOf h g ++ deltasOf h' g := by
  rw [deltasOf, eventsOf_append, List.filterMap_append]
  rfl

theorem deltasOf_singleton (t : Transition) (g : Nat) :
    deltasOf [t] g = ((t.eventOf? g).bind TurnEvent.delta?).toList := by
  rw [deltasOf, eventsOf_singleton]
  cases t.eventOf? g with
  | none => rfl
  | some e =>
    rw [Option.toList_some, List.filterMap_cons, List.filterMap_nil, Option.bind_some]
    cases e.delta? <;> rfl

theorem delta?_of_isTerminal {e : TurnEvent} (he : e.isTerminal = true) : e.delta? = none := by
  cases e with
  | completed time | error message => rfl
  | _ => exact Bool.noConfusion he

/-- Only an event that writes adds to an account. -/
theorem deltasOf_eq_nil
    (hw : ¬∃ e, i = .event e ∧ s.isLive e.generation = true ∧ e.event.isTerminal = false)
    (g : Nat) : deltasOf [s.transition i] g = [] := by
  rw [deltasOf, eventsOf_singleton, List.filterMap_eq_nil_iff]
  exact fun e he => delta?_of_isTerminal (isTerminal_of_eventOf? hw e (Option.mem_toList.1 he))

theorem usage_updateCurrent (s : Session) (m : Message) : (s.updateCurrent m).usage = s.usage := by
  rw [updateCurrent, tellCurrent_eq]

/-- What an event that writes adds to the account is merged into what the stream has used. -/
theorem usage_apply (s : Session) {e : TurnEvent} (he : e.isTerminal = false) :
    (s.apply e).usage = e.delta?.toList.foldl Usage.merge s.usage := by
  cases e with
  | ready runId => rfl
  | token text =>
    rw [apply, appendText]
    split
    · rfl
    · exact usage_updateCurrent _ _
  | toolsPending us =>
    rw [apply, applyPending]
    split
    · rfl
    · simp only
      split
      · exact usage_updateCurrent _ _
      · rfl
  | tool kind u =>
    rw [apply, applyTool]
    split
    · simp only
      split
      · exact usage_updateCurrent _ _
      · rfl
    · split
      · rfl
      · simp only
        split
        · exact usage_updateCurrent _ _
        · rfl
  | usage report source =>
    cases source with
    | main => exact congrArg Session.usage (recordUsage_eq s report)
    | turnCheck | other => rfl
  | firstToken time => exact congrArg Session.usage (recordUsage_eq s _)
  | completed time | error message => exact Bool.noConfusion he

/-- What is known of a session that comes with a history: what the stream of the turn has used
    is what was added to its account, merged in order. -/
structure Summed (h : List Transition) (s : Session) : Prop where
  coherent : s.Coherent
  tallied : s.approvals.Tallied
  fresh : ∀ g, s.generation < g → eventsOf h g = []
  usage : ∀ turn ∈ s.turn, s.usage = Usage.mergeAll (deltasOf h turn.generation)

theorem summed_start (conversationId : String) (interval now : Nat) (ids : Ids) :
    Summed [] (start conversationId interval now ids) where
  coherent := coherent_start conversationId interval now ids
  tallied := Coordinator.tallied_of_none rfl
  fresh _ _ := rfl
  usage _ ht := absurd ht (Option.not_mem_none _)

/-- What an event writes is added to the account of its stream. -/
theorem Summed.usage_writes (hs : Summed h s) {e : Envelope} (hl : s.isLive e.generation = true)
    (he : e.event.isTerminal = false) : ∀ turn ∈ (s.react (.event e)).2.turn,
      (s.react (.event e)).2.usage =
        Usage.mergeAll (deltasOf (h ++ [s.transition (.event e)]) turn.generation) := by
  intro turn' ht'
  obtain ⟨runId, ht⟩ := (continues_apply s he).turn
  rw [react_of_live hl, ht] at ht'
  obtain ⟨turn, ht, rfl⟩ := Option.map_eq_some_iff.1 ht'
  have hg : turn.generation = e.generation :=
    (hs.coherent.generation turn ht).trans ((s.isLive_iff _).1 hl).1.symm
  rw [react_of_live hl, usage_apply s he, deltasOf_append, deltasOf_singleton, hg,
    eventOf?_of_live hl, hs.usage turn ht, Usage.mergeAll, ← List.foldl_append, hg]
  rfl

theorem Summed.react (hs : Summed h s) (i : Input) :
    Summed (h ++ [s.transition i]) (s.react i).2 := by
  refine ⟨hs.coherent.react i, hs.coherent.tallied hs.tallied i, fun g hg => ?_, ?_⟩
  · have hg := Nat.lt_of_le_of_lt (s.generation_le_react i) hg
    rw [eventsOf_concat, hs.fresh g hg, eventOf?_of_not_turn fun h => Nat.ne_of_gt hg h.1]
    rfl
  · rcases s.renews_or_writes i with ⟨hr, hw⟩ | ⟨e, rfl, hl, he⟩
    · intro turn ht
      rw [deltasOf_append, deltasOf_eq_nil hw, List.append_nil]
      cases hr with
      | stays hs' _ hu _ =>
        rw [hu]
        exact hs.usage turn (hs' ▸ ht)
      | ends hs' _ => exact absurd (hs' ▸ ht) (Option.not_mem_none turn)
      | opens _ hg hu =>
        rw [hu, deltasOf, (hs.coherent.react i).generation turn ht, hs.fresh _ hg]
        rfl
    · exact hs.usage_writes hl he

theorem summed_run (conversationId : String) (interval now : Nat) (ids : Ids)
    (inputs : List Input) :
    Summed ((start conversationId interval now ids).history inputs)
      ((start conversationId interval now ids).run inputs) :=
  history_induction (summed_start conversationId interval now ids) fun _ _ i _ hs => hs.react i

/-! ## Telling the last account -/

/-- From one session to another the account was told for the last time: what the stream has
    used, and what the conversation used with every message finalized by then. Nothing was
    concluded before. -/
def TellsLast (s s' : Session) (usage : Usage) : Prop :=
  ∃ before after, s'.outbox = s.outbox ++ (before ++ .told (.usageTick usage
      (Usage.aggregate (s.transcript.finalized ++ finalizations before) none)) :: after) ∧
    ∀ e ∈ before, e.concludes = false

theorem TellsLast.grows (h : s.TellsLast s' usage) {marks : List TurnMark}
    (hy : s'.Yields s'' marks) : s.TellsLast s'' usage := by
  obtain ⟨before, after, ho, hb⟩ := h
  obtain ⟨es, hes, _⟩ := hy
  refine ⟨before, after ++ es, ?_, hb⟩
  rw [hes, ho]
  simp only [List.append_assoc, List.cons_append]

theorem TellsLast.opens (h : s.TellsLast s' usage) (ho : s'.Opens s'') :
    s.TellsLast s'' usage := by
  obtain ⟨_, _, hy, _⟩ := ho
  exact h.grows hy

theorem TellsLast.starts (h : s.TellsLast s' usage) (hs : s'.Starts s'') :
    s.TellsLast s'' usage := by
  cases hs with
  | nothing hy _ => exact h.grows hy
  | stream _ ho => exact h.opens ho

/-- Something may be told before that has nothing to do with messages or turns. -/
theorem TellsLast.after (h : s'.TellsLast s'' usage) (us : List Update)
    (ho : s'.outbox = s.outbox ++ tellings us) (hx : s'.transcript = s.transcript)
    (hf : finalizations (tellings us) = []) (hc : ∀ e ∈ tellings us, e.concludes = false) :
    s.TellsLast s'' usage := by
  obtain ⟨before, after, ho', hb⟩ := h
  refine ⟨tellings us ++ before, after, ?_, List.forall_mem_append.2 ⟨hc, hb⟩⟩
  rw [ho', ho, hx, finalizations_append, hf]
  simp only [List.append_assoc, List.nil_append]

theorem TellsLast.after_setPhase {p : Phase} (h : (s.setPhase p).TellsLast s' usage) :
    s.TellsLast s' usage := by
  refine h.after (phaseUpdates s.phase p) (by rw [setPhase_eq]) (by rw [setPhase_eq]) ?_ ?_ <;>
    rw [phaseUpdates] <;> split
  · rfl
  · rfl
  · exact List.forall_mem_nil _
  · exact List.forall_mem_singleton.2 rfl

/-- When a message is finalized the account is told, and it counts the message. -/
theorem finalUpdates_of_noTurn (ht : s.turn = none) (base : Usage) (us : List Update) :
    ∃ finished : Option Message, tellings (s.finalUpdates base ++ us) =
      tellings (finished.toList.map .messageFinalized) ++ .told (.usageTick s.usage
        (Usage.aggregate (s.transcript.finalized ++ finished.toList) none)) :: tellings us := by
  have hx := s.transcript.finalized_finalize (some (base.combine s.usage))
  rw [finalUpdates]
  generalize s.transcript.finalize (some (base.combine s.usage)) = f at hx ⊢
  obtain ⟨finished, transcript⟩ := f
  refine ⟨finished, ?_⟩
  rw [← hx, List.append_assoc, tellings_append]
  simp only [sessionUsage, ht]
  rfl

theorem tellsLast_interrupt {turn : ActiveTurn} (ht : s.turn = some turn) :
    s.TellsLast s.interrupt s.usage := by
  let stops := turn.runId.toList.map (stopRequested s.conversationId)
  obtain ⟨finished, hf⟩ := finalUpdates_of_noTurn (s := { s with turn := none }) rfl turn.baseUsage
    (s.abortUpdates ++ [.turnFinished .cancelled])
  have hstops : finalizations stops = [] := congrArg _ (updates_stops _ _)
  have hm : finalizations (.cancelled turn.generation ::
      (stops ++ tellings (finished.toList.map .messageFinalized))) = finished.toList := by
    show finalizations (stops ++ _) = _
    rw [finalizations_append, hstops, finalizations_finalized, List.nil_append]
  refine ⟨.cancelled turn.generation :: (stops ++ tellings (finished.toList.map .messageFinalized)),
    tellings (s.abortUpdates ++ [.turnFinished .cancelled]), ?_, ?_⟩
  · rw [hm, interrupt_eq ht, interruptUpdates, List.append_assoc, hf, List.cons_append,
      List.append_assoc]
  · refine List.forall_mem_cons.2 ⟨rfl, List.forall_mem_append.2 ⟨fun e he => ?_, ?_⟩⟩
    · obtain ⟨runId, _, rfl⟩ := List.mem_map.1 he
      rfl
    · exact not_concludes_finalized _

theorem tellsLast_ended (s : Session) (turn : ActiveTurn) (usage : Usage)
    (approvals : Coordinator) (us : List Update) :
    s.TellsLast (s.ended turn usage approvals us) usage := by
  obtain ⟨finished, hf⟩ :=
    finalUpdates_of_noTurn (s := { s with turn := none, usage }) rfl turn.baseUsage us
  refine ⟨tellings (finished.toList.map .messageFinalized), tellings us, ?_,
    not_concludes_finalized _⟩
  rw [finalizations_finalized, ended, hf]

/-- A turn that comes to rest is announced, and queued input may be started. -/
theorem TellsLast.settle (h : s.TellsLast s' usage) (outcome : Outcome) :
    s.TellsLast (s'.settle outcome) usage := by
  have hr : s'.Yields (s'.rested outcome) _ := yields_of_tellings rfl
  rw [settle_eq]
  exact (h.grows hr).starts (starts_drainQueue _)

theorem tellsLast_complete {turn : ActiveTurn} (ht : s.turn = some turn) (time : Option Count) :
    s.TellsLast (s.complete time) (s.completedUsage turn time) := by
  have he : s.TellsLast (s.completed turn time) (s.completedUsage turn time) :=
    s.tellsLast_ended turn _ _ _
  have hy : (s.completed turn time).Yields (s.completed turn time).releaseImmediate [] :=
    yields_of_outbox_eq rfl
  rw [complete_eq ht]
  split
  · exact he.opens (opens_beginContinuation _ _ _ _)
  · exact (he.grows hy).settle _

theorem tellsLast_fail {turn : ActiveTurn} (ht : s.turn = some turn) (message : String) :
    s.TellsLast (s.fail message) s.usage := by
  have he : s.TellsLast (s.ended turn s.usage {} s.abortUpdates) s.usage :=
    s.tellsLast_ended turn _ _ _
  have hy : (s.ended turn s.usage {} s.abortUpdates).Yields (s.failed turn message) [] :=
    yields_of_outbox_eq rfl
  rw [fail_eq ht]
  exact (he.grows hy).settle _

/-- Whatever ends the stream of the turn tells its account for the last time. A completion
    adds the response time to it. -/
theorem Coherent.tellsLast (hc : s.Coherent) {turn : ActiveTurn} (ht : s.turn = some turn)
    {r : Option (Except Error Reply)} (hr : s.Reaction i r s')
    (hn : s'.turn.map (·.generation) ≠ some turn.generation) :
    s.TellsLast s' ((s.transition i).response.foldl Usage.merge s.usage) := by
  have hint := tellsLast_interrupt ht
  have hkeeps {u : Session} (hu : u.turn.map (·.generation) ≠ some turn.generation)
      (h : u.turn = s.turn) : False := hu (by rw [h, ht]; rfl)
  cases hr with
  | refuses _ | ignores _ | waits | removes _ _ _ | hydrates _ => exact (hkeeps hn rfl).elim
  | restsOn hn' => exact nomatch ht.symm.trans hn'
  | writes _ he =>
    obtain ⟨runId, ht'⟩ := (continues_apply s he).turn
    rw [ht', ht] at hn
    exact absurd rfl hn
  | @completes generation time hl =>
    have hres : (s.transition (.event ⟨generation, .completed time⟩)).response =
        [.ofResponse (time.getD (Count.ofNat (s.now - turn.startedAt)))] := by
      rw [Transition.response, transition, ht]
      exact if_pos hl
    rw [hres]
    exact tellsLast_complete ht time
  | @fails generation message hl => exact tellsLast_fail ht message
  | starts _ hp _ => exact nomatch ht.symm.trans (hc.idle_iff.1 hp)
  | @queues content _ _ =>
    have hb : ¬(s.withQueued content).CanDrain := fun hc =>
      Option.some_ne_none turn (ht.symm.trans hc.noTurn)
    rw [drainQueue_of_not_canDrain hb] at hn
    exact (hkeeps hn rfl).elim
  | restarts _ =>
    have hy : s.interrupt.Yields s.interrupt.releaseImmediate [] := yields_of_outbox_eq rfl
    exact (hint.grows hy).opens (opens_beginTurn _ _)
  | @pulls _ entry before after _ _ _ _ =>
    have hw : (s.withQueue ⟨before ++ after, true⟩).TellsLast
        (s.withQueue ⟨before ++ after, true⟩).interrupt s.usage := tellsLast_interrupt ht
    have hs : s.TellsLast _ s.usage := hw.after [.queueChanged (before ++ after)] rfl rfl rfl
      (List.forall_mem_singleton.2 rfl)
    exact hs.opens (opens_beginTurn _ _)
  | cancels _ =>
    have ht' : (s.releaseImmediate.setPhase .cancelling).turn = some turn := by
      rw [setPhase_eq]
      exact ht
    have hs : s.TellsLast s.cancelled s.usage := by
      have hw := tellsLast_interrupt ht'
      rw [show (s.releaseImmediate.setPhase .cancelling).usage = s.usage by rw [setPhase_eq]; rfl]
        at hw
      exact (hw.after_setPhase).after [] (List.append_nil _).symm rfl rfl (List.forall_mem_nil _)
    exact (hs.grows (yields_setPhase _ _)).starts (starts_drainQueue _)
  | decides _ => exact hint.opens (opens_beginContinuation _ _ _ _)
  | @decidesAll decision _ rest _ _ =>
    have hb : s.interrupt.Yields (s.bulkBegun rest ⟨0, rest.length + 1, decision⟩) [] := by
      rw [bulkBegun, tell_eq]
      exact yields_nil rfl rfl
    exact (hint.grows hb).opens (opens_beginContinuation _ _ _ _)
  | shutsDown => exact hint.grows (yields_setPhase _ _)

end Session

/-- A fate tells the outcome of the turn, or opens the next stream. -/
theorem Fate.concludes (generation : Nat) (fate : Fate) :
    ∃ m ∈ fate.marks generation, m.concludes = true := by
  cases fate <;> exact ⟨_, .tail _ (.head _), rfl⟩

namespace Transition

variable {t : Transition} {marks : List TurnMark} {last : Option Nat}

/-- To end a stream is to conclude something. -/
theorem Turns.concludes (h : t.Turns marks last) {turn : ActiveTurn}
    (ht : t.before.turn = some turn) (hn : last ≠ some turn.generation) :
    ∃ m ∈ marks, m.concludes = true := by
  cases h with
  | keeps _ => exact absurd (congrArg _ ht) hn
  | opens ht' => exact nomatch ht.symm.trans ht'
  | ends _ _ => exact Fate.concludes _ _
  | replaces _ _ _ => exact ⟨_, List.mem_append_right _ List.mem_cons_self, rfl⟩

theorem not_concludes_terminal (t : Transition) : ∀ m ∈ t.terminal, m.concludes = false := by
  unfold terminal
  split
  · split
    · exact List.forall_mem_singleton.2 rfl
    · exact List.forall_mem_nil _
  · split
    · exact List.forall_mem_singleton.2 rfl
    · exact List.forall_mem_nil _
  · exact List.forall_mem_nil _

/-- What concludes is done to the outside. -/
theorem exists_concludes (h : ∃ m ∈ t.turnMarks, m.concludes = true) :
    ∃ e ∈ t.effects, e.concludes = true := by
  obtain ⟨m, hm, hc⟩ := h
  rcases List.mem_append.1 hm with hm | hm
  · exact Bool.noConfusion (hc.symm.trans (t.not_concludes_terminal m hm))
  · obtain ⟨e, he, hem⟩ := List.mem_filterMap.1 hm
    exact ⟨e, he, (Effect.concludes_of_turnMark? hem).trans hc⟩

end Transition

namespace Session

open Effect

variable {s : Session} {h : List Transition}

/-! ## Every run -/

/-- An input that ends the stream of the turn tells its account for the last time. -/
theorem Summed.tellsLast (hs : Summed h s) (i : Input) {turn : ActiveTurn}
    (ht : s.turn = some turn) (hn : (s.react i).2.turn.map (·.generation) ≠ some turn.generation) :
    ∃ before after, (s.transition i).effects = before ++ .told (.usageTick
        (Usage.mergeAll (deltasOf h turn.generation ++ (s.transition i).response))
        (Usage.aggregate (s.transcript.finalized ++ finalizations before) none)) :: after ∧
      (∀ e ∈ before, e.concludes = false) ∧ ∃ e ∈ after, e.concludes = true := by
  obtain ⟨before, after, ho, hb⟩ := hs.coherent.tellsLast ht (s.reaction i) hn
  obtain ⟨marks, hy, hturns⟩ := hs.coherent.turns_of_reaction hs.tallied (s.reaction i) rfl
  obtain ⟨ho', hm⟩ := hy.effects
  have he := List.append_cancel_left (ho'.symm.trans ho)
  rw [hs.usage turn ht, Usage.mergeAll, ← List.foldl_append] at he
  refine ⟨before, after, he, hb, ?_⟩
  have hc : ∃ m ∈ (s.transition i).turnMarks, m.concludes = true := by
    rw [Transition.turnMarks, hm]
    exact hturns.concludes ht hn
  -- What concludes is among the effects, and it is neither before the account nor the account.
  obtain ⟨e, hmem, hce⟩ := Transition.exists_concludes hc
  rw [he, List.mem_append, List.mem_cons] at hmem
  rcases hmem with hmem | rfl | hmem
  · exact Bool.noConfusion (hce.symm.trans (hb e hmem))
  · exact Bool.noConfusion hce
  · exact ⟨e, hmem, hce⟩

/-- How often watchers are told of the account changes nothing but that. With the same inputs,
    two sessions that are throttled differently go through the same states, apart from the
    throttle, with the same replies, and do the same to the outside, in the same order, apart
    from the updates about the account.

    And the last account of a stream is never held back. Whatever input ends the stream of the
    turn, the account is told before the outcome of the turn is, or the next stream is opened:
    for the turn, all that was added to the account of the stream, with its response time if
    it completes, and for the conversation, what the finalized messages used, those included
    that the input has finalized by then. -/
theorem throttling_changes_ticks_only (conversationId : String) (interval interval' now : Nat)
    (ids : Ids) (inputs : List Input) :
    let s := start conversationId interval now ids
    let s' := start conversationId interval' now ids
    (List.Forall₂ Transition.Alike (s.history inputs) (s'.history inputs) ∧
      (s.run inputs).canonical = (s'.run inputs).canonical) ∧
    ∀ past i future, inputs = past ++ i :: future → ∀ turn ∈ (s.run past).turn,
      (s.run (past ++ [i])).turn.map (·.generation) ≠ some turn.generation →
      ∃ before after,
        ((s.run past).transition i).effects = before ++ .told (.usageTick
          (Usage.mergeAll
            (deltasOf (s.history inputs) turn.generation ++ ((s.run past).transition i).response))
          (Usage.aggregate ((s.run past).transcript.finalized ++ finalizations before) none)) ::
            after ∧
        (∀ e ∈ before, e.concludes = false) ∧ ∃ e ∈ after, e.concludes = true := by
  intro s s'
  refine ⟨alike_run (coherent_start conversationId interval now ids)
    (Coordinator.tallied_of_none rfl) (coherent_start conversationId interval' now ids) rfl
    inputs, ?_⟩
  rintro past i future rfl turn ht hn
  have hs : Summed (s.history past) (s.run past) := summed_run conversationId interval now ids past
  rw [run_concat] at hn
  -- Nothing is added to the account of the stream by the input that ends it, or later.
  have hover := hs.coherent.eventsOf_ending ht hn future
  have hd : deltasOf ((s.run past).history (i :: future)) turn.generation = [] :=
    List.filterMap_eq_nil_iff.2 fun e he => delta?_of_isTerminal (hover e he)
  rw [history_append, deltasOf_append, hd, List.append_nil]
  exact hs.tellsLast i ht hn

end Session

end Dialogue
