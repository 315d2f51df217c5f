import Dialogue.Proofs.Session.Renewing

/-!
# How a session gets from one stream to the next

An input that is no event that writes leaves the stream of the turn as it is, or the session is
without a stream afterwards, or another stream is opened (`Session.Proceeds`). Before that, the
session may let go of the stream of the turn (`Session.LetsGo`): it gives it up, and asks the
server to stop the run, and apart from that it only tells.

* `letsGo_interrupt`: an interrupted session has let go of its stream;
* `LetsGo.beginTurn`, `LetsGo.beginContinuation`: streams are opened in a quiet session;
* `Coherent.proceeds`: every input but an event that writes proceeds so.
-/

namespace Dialogue

namespace Session

open Effect

variable {s s' e e' : Session}

/-- From one session to another the stream of the turn was given up or not, and apart from that
    the session only told. -/
structure LetsGo (s e : Session) : Prop where
  generation_le : s.generation ≤ e.generation
  done : ∃ us acts vs, e.outbox = s.outbox ++ (tellings us ++ (acts ++ tellings vs)) ∧
    (acts = [] ∨ acts = s.interruptActs)

/-- How a session goes on when no event writes. -/
inductive Proceeds (s : Session) : Session → Prop
  | stays {s' : Session} (us : List Update) : s'.turn = s.turn → s'.usage = s.usage →
      s'.transcript = s.transcript → s'.outbox = s.outbox ++ tellings us → Proceeds s s'
  | ends {s' : Session} : s'.turn = none → s.LetsGo s' → Proceeds s s'
  | opens {e : Session} (kind : TurnKind) (request : Request) (resumed : Option Message) :
      e.Quiet → s.LetsGo e → Proceeds s (e.openStream kind request resumed)

/-! ## Letting go -/

/-- Nothing is given up as long as a session only tells. -/
theorem letsGo_of_tellings (us : List Update) (hg : s.generation ≤ e.generation)
    (ho : e.outbox = s.outbox ++ tellings us) : s.LetsGo e :=
  ⟨hg, us, [], [], ho.trans (congrArg _ (List.append_nil _).symm), .inl rfl⟩

theorem letsGo_of_outbox_eq (hg : s.generation ≤ e.generation) (ho : e.outbox = s.outbox) :
    s.LetsGo e :=
  letsGo_of_tellings [] hg (ho.trans (List.append_nil _).symm)

/-- A session may tell more when it has let go. -/
theorem LetsGo.tells (h : s.LetsGo e) (us : List Update) (hg : e.generation ≤ e'.generation)
    (ho : e'.outbox = e.outbox ++ tellings us) : s.LetsGo e' := by
  obtain ⟨before, acts, after, he, ha⟩ := h.done
  refine ⟨Nat.le_trans h.generation_le hg, before, acts, after ++ us, ?_, ha⟩
  rw [ho, he, tellings_append]
  simp only [List.append_assoc]

/-- It may also tell something before, as long as the stream is the same. -/
theorem LetsGo.after (h : e.LetsGo e') (us : List Update) (hg : s.generation ≤ e.generation)
    (ho : e.outbox = s.outbox ++ tellings us) (hi : e.interruptActs = s.interruptActs) :
    s.LetsGo e' := by
  obtain ⟨before, acts, after, he, ha⟩ := h.done
  refine ⟨Nat.le_trans hg h.generation_le, us ++ before, acts, after, ?_, hi ▸ ha⟩
  rw [he, ho, tellings_append]
  simp only [List.append_assoc]

theorem LetsGo.setPhase (h : s.LetsGo e) (p : Phase) : s.LetsGo (e.setPhase p) := by
  rw [setPhase_eq]
  exact h.tells _ (Nat.le_refl _) rfl

/-- Interrupting lets go of the stream of the turn. -/
theorem letsGo_interrupt (s : Session) : s.LetsGo s.interrupt := by
  cases ht : s.turn with
  | none =>
    rw [interrupt_of_noTurn ht]
    exact letsGo_of_outbox_eq (Nat.le_refl _) rfl
  | some turn =>
    refine ⟨s.generation_le_interrupt, [], _, s.interruptUpdates turn.baseUsage, ?_, .inr rfl⟩
    rw [interrupt_eq ht, interruptActs, ht]
    rfl

/-! ## Opening the next stream -/

theorem LetsGo.beginTurn (h : s.LetsGo e) (hq : e.Quiet) (content : String) :
    s.Proceeds (e.beginTurn content) := by
  have hw : s.LetsGo (e.withInput content) := h.tells _ (Nat.le_refl _) rfl
  rw [beginTurn_eq]
  exact .opens _ _ _ (hq.withInput content) hw

theorem LetsGo.beginContinuation (h : s.LetsGo e) (hq : e.Quiet) (callId : String)
    (decision : Decision) (reason : Option String) :
    s.Proceeds (e.beginContinuation callId decision reason) := by
  have hw : s.LetsGo e.withoutResumed :=
    h.tells [] (Nat.le_refl _) (List.append_nil _).symm
  rw [beginContinuation_eq]
  exact .opens _ _ _ hq.withoutResumed hw

theorem LetsGo.drainQueue (h : s.LetsGo e) (hq : e.Quiet) : s.Proceeds e.drainQueue := by
  rcases e.drainQueue_cases with ⟨hd, _⟩ | ⟨entry, rest, _, _, hd⟩
  · rw [hd]
    exact .ends hq.turn h
  · have hr : s.LetsGo (e.afterHead rest) := h.tells _ (Nat.le_refl _) rfl
    rw [hd]
    exact hr.beginTurn (hq.congr (e.afterHead rest) rfl rfl) _

theorem LetsGo.settle (h : s.LetsGo e) (hq : e.Quiet) (outcome : Outcome) :
    s.Proceeds (e.settle outcome) := by
  have hr : s.LetsGo (e.rested outcome) := h.tells _ (Nat.le_refl _) rfl
  rw [settle_eq]
  exact hr.drainQueue (hq.congr (e.rested outcome) rfl rfl)

/-! ## Every input -/

theorem Coherent.proceeds_complete (h : s.Coherent) {turn : ActiveTurn} (ht : s.turn = some turn)
    (time : Option Count) : s.Proceeds (s.complete time) := by
  have hl : s.LetsGo (s.completed turn time) := letsGo_of_tellings _ (Nat.le_refl _) rfl
  have hl' : s.LetsGo (s.completed turn time).releaseImmediate :=
    letsGo_of_tellings _ (Nat.le_refl _) rfl
  have hq := h.completed turn time
  rw [complete_eq ht]
  split
  · exact hl.beginContinuation hq _ _ _
  · exact hl'.settle hq.releaseImmediate _

/-- Every input but an event that writes leaves the stream of the turn as it is, or ends it, or
    opens another one. -/
theorem Coherent.proceeds (h : s.Coherent) {i : Input} {r : Option (Except Error Reply)}
    (hr : s.Reaction i r s')
    (hw : ¬∃ e, i = .event e ∧ s.isLive e.generation = true ∧ e.event.isTerminal = false) :
    s.Proceeds s' := by
  have hself : s.Proceeds s := .stays [] rfl rfl rfl (List.append_nil _).symm
  have hi := s.letsGo_interrupt
  have hq := h.interrupt.1
  cases hr with
  | refuses _ | ignores _ => exact hself
  | waits => exact .stays [] rfl rfl rfl (List.append_nil _).symm
  | writes hl he => exact absurd ⟨_, rfl, hl, he⟩ hw
  | completes hl =>
    obtain ⟨_, turn, ht⟩ := (s.isLive_iff _).1 hl
    exact h.proceeds_complete ht _
  | @fails _ message hl =>
    obtain ⟨_, turn, ht⟩ := (s.isLive_iff _).1 hl
    have hf : s.LetsGo (s.failed turn message) := letsGo_of_tellings _ (Nat.le_refl _) rfl
    rw [fail_eq ht]
    exact hf.settle (h.failed turn message) _
  | starts _ hp _ =>
    exact (letsGo_of_outbox_eq (Nat.le_refl _) rfl).beginTurn (h.quiet (h.idle_iff.1 hp)) _
  | @queues content _ _ =>
    cases ht : s.turn with
    | none =>
      have hl : s.LetsGo (s.withQueued content) := letsGo_of_tellings _ (Nat.le_refl _) rfl
      exact hl.drainQueue ((h.quiet ht).congr (s.withQueued content) rfl rfl)
    | some turn =>
      have hb : ¬(s.withQueued content).CanDrain := fun hc =>
        Option.some_ne_none turn (ht.symm.trans hc.noTurn)
      rw [drainQueue_of_not_canDrain hb]
      exact .stays _ rfl rfl rfl rfl
  | restarts _ =>
    have hl : s.LetsGo s.interrupt.releaseImmediate :=
      hi.tells [] (Nat.le_refl _) (List.append_nil _).symm
    exact hl.beginTurn hq.releaseImmediate _
  | @pulls _ entry before after _ _ _ _ =>
    have hc := h.congr (s.withQueue ⟨before ++ after, true⟩) rfl rfl rfl rfl rfl
    have hl : s.LetsGo (s.withQueue ⟨before ++ after, true⟩).interrupt :=
      (letsGo_interrupt _).after _ (Nat.le_refl _) rfl rfl
    exact hl.beginTurn hc.interrupt.1 _
  | removes _ _ _ => exact .stays _ rfl rfl rfl rfl
  | restsOn _ =>
    rw [abortApprovals_eq]
    exact .stays _ rfl rfl rfl rfl
  | cancels ht =>
    obtain ⟨turn, ht⟩ := Option.ne_none_iff_exists'.1 ht
    obtain ⟨hc, hn⟩ := quiet_cancelled ht h.marked
    have hl : s.LetsGo s.cancelled := by
      rw [cancelled, setPhase_eq]
      exact (letsGo_interrupt _).after _ (Nat.le_refl _) rfl rfl
    have hp : (s.cancelled.setPhase .idle).Quiet := (hc.setPhase_idle hn).quiet <| by
      rw [setPhase_eq]
      exact hc.turn
    exact (hl.setPhase .idle).drainQueue hp
  | decides _ => exact hi.beginContinuation hq _ _ _
  | @decidesAll decision _ rest _ _ =>
    have hl : s.LetsGo (s.bulkBegun rest ⟨0, rest.length + 1, decision⟩) :=
      hi.tells [.approvalProgress (some ⟨0, rest.length + 1, decision⟩)] (Nat.le_refl _) rfl
    exact hl.beginContinuation (hq.congr (s.bulkBegun rest _) rfl rfl) _ _ _
  | hydrates hl =>
    obtain ⟨_, ht, _⟩ := (s.canHydrate_iff).1 hl
    exact .ends ht (letsGo_of_tellings _ (Nat.le_refl _) rfl)
  | shutsDown =>
    refine .ends ?_ (hi.setPhase .idle)
    rw [setPhase_eq]
    exact hq.turn

/-- One input more takes no event from a stream whose generation is not reached yet. -/
theorem eventsOf_concat_ahead {h : List Transition} {g : Nat} (i : Input)
    (hf : eventsOf h g = []) (hg : s.generation < g) : eventsOf (h ++ [s.transition i]) g = [] := by
  rw [eventsOf_concat, hf, eventOf?_of_not_turn fun h => Nat.ne_of_gt hg h.1]
  rfl

/-- An event that counts is taken from the stream of the turn. -/
theorem Coherent.eventsOf_concat_live (hc : s.Coherent) {h : List Transition} {turn : ActiveTurn}
    (ht : s.turn = some turn) {e : Envelope} (hl : s.isLive e.generation = true) :
    eventsOf (h ++ [s.transition (.event e)]) turn.generation =
      eventsOf h turn.generation ++ [e.event] := by
  have hg : turn.generation = e.generation :=
    (hc.generation turn ht).trans ((s.isLive_iff _).1 hl).1.symm
  rw [eventsOf_concat, hg, eventOf?_of_live hl]
  rfl

/-- So an input is an event that writes, or the session proceeds. -/
theorem Coherent.proceeds_or_writes (h : s.Coherent) (i : Input) :
    (s.Proceeds (s.react i).2 ∧
      ¬∃ e, i = .event e ∧ s.isLive e.generation = true ∧ e.event.isTerminal = false) ∨
    ∃ e, i = .event e ∧ s.isLive e.generation = true ∧ e.event.isTerminal = false := by
  by_cases hw : ∃ e, i = .event e ∧ s.isLive e.generation = true ∧ e.event.isTerminal = false
  · exact .inr hw
  · exact .inl ⟨h.proceeds (s.reaction i) hw, hw⟩

end Session

end Dialogue
