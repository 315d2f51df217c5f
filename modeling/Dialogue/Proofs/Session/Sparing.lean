import Dialogue.Proofs.Approval
import Dialogue.Proofs.Session.Deciding
import Dialogue.Proofs.Session.Refusing

/-!
# What a bulk decision survives

An input spares a bulk decision (`Session.Spares`) or aborts it (`Session.Aborts`), and there is
no other kind while it goes on. What spares it is any event but that the stream failed, any
command that does not interrupt the turn, and any command that is refused.

* `Spares.undisturbed`: an input that spares it, and does not complete its stream, opens no
  continuation, and while the session is busy nothing at all;
* `Aborts.ends`: an input that aborts it leaves no bulk decision, and opens no continuation
  but that of the single decision that the input may be;
* `Aborts.tellsOver`: that the bulk decision is over is told;
* `Coherent.bulkless`: without a bulk decision there is none, and no continuation but that of a
  single decision, until another one begins.
-/

namespace Dialogue

/-- Whether a request reports a decision. -/
def Request.isContinuation : Request → Bool
  | .approvalContinuation .. => true
  | .newTurn .. => false

/-- Whether a command interrupts the turn, unless it is refused. -/
def Command.interrupts : Command → Bool
  | .startTurn _ | .submitNow _ | .cancel | .decideSingle .. | .decideBulk _ | .shutdown => true
  | .submit _ | .removeQueued _ | .hydrate _ | .snapshot => false

/-- Whether a transition completes the stream of the turn. -/
def Transition.completes (t : Transition) : Bool :=
  match t.input with
  | .event ⟨generation, .completed _⟩ => t.before.isLive generation
  | _ => false

/-- Whether a transition begins a bulk decision. -/
def Transition.BeginsBulk (t : Transition) : Prop :=
  ∃ progress, t.reply = some (.ok (.progress progress))

/-- A transition opens no continuation, but that of the single decision that it may be. -/
def Transition.NoBulk (t : Transition) : Prop :=
  ∀ o ∈ Effect.openings t.effects, o.2.isContinuation = true →
    ∃ callId approve reason, t.input = .command (.decideSingle callId approve reason) ∧
      o.2 = t.before.decisionRequest callId (.ofApprove approve) reason

namespace Effect

/-- Telling opens nothing. -/
theorem openings_acts (es : List Effect) : openings (acts es) = openings es := by
  rw [openings, acts, List.filterMap_filter, openings]
  congr 1
  funext e
  cases e <;> rfl

end Effect

namespace Session

open Effect

variable {s s' s'' : Session} {i : Input}

theorem openings_interruptActs (s : Session) : openings s.interruptActs = [] := by
  rw [interruptActs]
  cases s.turn with
  | none => rfl
  | some turn =>
    obtain ⟨_, _, runId, _, _⟩ := turn
    cases runId <;> rfl

theorem Acts.openings {as : List Effect} (h : s.Acts (s.react i).2 as) :
    openings (s.transition i).effects = openings as := by
  rw [← h.effects.2, openings_acts]

/-! ## Opening no continuation -/

/-- From one session to another no continuation was opened. -/
def OnlyTurns (s s' : Session) : Prop :=
  ∃ as, s.Acts s' as ∧ ∀ o ∈ openings as, o.2.isContinuation = false

theorem onlyTurns_of_acts {as : List Effect} (h : s.Acts s' as) (ho : Effect.openings as = []) :
    s.OnlyTurns s' :=
  ⟨as, h, ho ▸ List.forall_mem_nil _⟩

theorem OnlyTurns.trans (h : s.OnlyTurns s') (h' : s'.OnlyTurns s'') : s.OnlyTurns s'' := by
  obtain ⟨as, ha, hn⟩ := h
  obtain ⟨bs, hb, hn'⟩ := h'
  refine ⟨as ++ bs, ha.trans hb, fun o ho => ?_⟩
  rw [openings_append] at ho
  exact (List.mem_append.1 ho).elim (hn o) (hn' o)

theorem onlyTurns_interrupt (s : Session) : s.OnlyTurns s.interrupt :=
  onlyTurns_of_acts (acts_interrupt s) (openings_interruptActs s)

theorem onlyTurns_beginTurn (s : Session) (content : String) : s.OnlyTurns (s.beginTurn content) :=
  ⟨_, acts_beginTurn s content, fun o ho => by rw [List.mem_singleton.1 ho]; rfl⟩

theorem onlyTurns_drainQueue (s : Session) : s.OnlyTurns s.drainQueue := by
  rcases s.drainQueue_cases with ⟨hd, _⟩ | ⟨entry, rest, _, _, hd⟩
  · rw [hd]
    exact onlyTurns_of_acts (acts_of_outbox_eq rfl) rfl
  · have hr : s.OnlyTurns (s.afterHead rest) := onlyTurns_of_acts (acts_of_tellings rfl) rfl
    rw [hd]
    exact hr.trans (onlyTurns_beginTurn _ _)

theorem onlyTurns_setPhase (s : Session) (p : Phase) : s.OnlyTurns (s.setPhase p) :=
  onlyTurns_of_acts (acts_setPhase s p) rfl

theorem onlyTurns_settle (s : Session) (outcome : Outcome) : s.OnlyTurns (s.settle outcome) := by
  have hr : s.OnlyTurns (s.rested outcome) := onlyTurns_of_acts (acts_of_tellings rfl) rfl
  rw [settle_eq]
  exact hr.trans (onlyTurns_drainQueue _)

/-! ## Inputs that spare a bulk decision -/

/-- An input lets a bulk decision go on. -/
inductive Spares (s : Session) : Input → Prop
  | event {e : Envelope} :
      (∀ message, e.event = .error message → s.isLive e.generation = false) → Spares s (.event e)
  | command {c : Command} : c.interrupts = false → Spares s (.command c)
  | refused {c : Command} {e : Error} : (s.perform c).1 = .error e → Spares s (.command c)
  | elapse {time : Nat} : Spares s (.elapse time)

/-- An input ends a bulk decision before its time, if one goes on: the stream failed, or a
    command interrupts the turn. -/
inductive Aborts (s : Session) : Input → Prop
  | event {generation : Nat} {message : String} : s.isLive generation = true →
      Aborts s (.event ⟨generation, .error message⟩)
  | command {c : Command} {r : Reply} : c.interrupts = true → (s.perform c).1 = .ok r →
      Aborts s (.command c)

theorem spares_or_aborts (s : Session) (i : Input) : s.Spares i ∨ s.Aborts i := by
  cases i with
  | elapse time => exact .inl .elapse
  | event e =>
    obtain ⟨generation, event⟩ := e
    cases event with
    | error message =>
      cases hl : s.isLive generation with
      | true => exact .inr (.event hl)
      | false => exact .inl (.event fun _ _ => hl)
    | _ => exact .inl (.event fun _ h => nomatch h)
  | command c =>
    cases hc : c.interrupts with
    | false => exact .inl (.command hc)
    | true =>
      cases hr : (s.perform c).1 with
      | error e => exact .inl (.refused hr)
      | ok r => exact .inr (.command hc hr)

/-- Nothing was done from one session to another to a bulk decision: no continuation was
    opened, and while the session is busy nothing at all. -/
structure Undisturbed (s s' : Session) : Prop where
  conversationId : s'.conversationId = s.conversationId
  approvals : s'.approvals = s.approvals
  onlyTurns : s.OnlyTurns s'
  busy : s.phase ≠ .idle → s.Acts s' [] ∧ s'.generation = s.generation

theorem undisturbed_of_acts (ha : s.Acts s' []) (hc : s'.conversationId = s.conversationId)
    (hg : s'.generation = s.generation) (hb : s'.approvals = s.approvals) : s.Undisturbed s' where
  conversationId := hc
  approvals := hb
  onlyTurns := onlyTurns_of_acts ha rfl
  busy _ := ⟨ha, hg⟩

theorem Undisturbed.refl (s : Session) : s.Undisturbed s :=
  undisturbed_of_acts (acts_of_outbox_eq rfl) rfl rfl rfl

theorem Continues.undisturbed (h : s.Continues s') : s.Undisturbed s' :=
  undisturbed_of_acts h.acts h.conversationId h.generation h.approvals

/-- Starting a turn disturbs nothing in a session that is idle. -/
theorem undisturbed_beginTurn (h : s.phase = .idle) (content : String) :
    s.Undisturbed (s.beginTurn content) where
  conversationId := by rw [beginTurn_eq, openStream_eq]; rfl
  approvals := approvals_beginTurn s content
  onlyTurns := onlyTurns_beginTurn s content
  busy hp := absurd h hp

theorem undisturbed_withQueued (s : Session) (content : String) :
    s.Undisturbed (s.withQueued content) :=
  undisturbed_of_acts (acts_of_tellings rfl) rfl rfl rfl

theorem undisturbed_drainQueue (s : Session) : s.Undisturbed s.drainQueue where
  conversationId := by
    rcases s.drainQueue_cases with ⟨hd, _⟩ | ⟨entry, rest, _, _, hd⟩
    · rw [hd]
    · rw [hd, beginTurn_eq, openStream_eq]
      rfl
  approvals := approvals_drainQueue s
  onlyTurns := onlyTurns_drainQueue s
  busy hp := by
    rw [drainQueue_of_not_canDrain fun hc => hp hc.idle]
    exact ⟨acts_of_outbox_eq rfl, rfl⟩

theorem Undisturbed.trans (h : s.Undisturbed s') (h' : s'.Undisturbed s'')
    (hp : s'.phase = s.phase) : s.Undisturbed s'' where
  conversationId := h'.conversationId.trans h.conversationId
  approvals := h'.approvals.trans h.approvals
  onlyTurns := h.onlyTurns.trans h'.onlyTurns
  busy hb := by
    obtain ⟨ha, hg⟩ := h.busy hb
    obtain ⟨ha', hg'⟩ := h'.busy (hp ▸ hb)
    exact ⟨ha.trans ha', hg'.trans hg⟩

/-- An event that is not live, or does not end its stream, disturbs nothing. -/
theorem undisturbed_handle {e : Envelope}
    (h : s.isLive e.generation = true → e.event.isTerminal = false) :
    s.Undisturbed (s.handle e) := by
  cases hl : s.isLive e.generation with
  | false =>
    rw [handle_of_not_live hl]
    exact .refl s
  | true =>
    rw [handle_of_live hl]
    exact (continues_apply s (h hl)).undisturbed

/-- Neither does a command that does not interrupt the turn. -/
theorem undisturbed_of_reaction {c : Command} (hc : c.interrupts = false)
    {r : Option (Except Error Reply)} (hr : s.Reaction (.command c) r s') : s.Undisturbed s' := by
  cases hr with
  | refuses _ => exact .refl s
  | ignores _ => exact .refl s
  | starts _ hp _ => exact undisturbed_beginTurn hp _
  | @queues content _ _ =>
    exact (undisturbed_withQueued s content).trans (undisturbed_drainQueue _) rfl
  | removes _ _ _ => exact undisturbed_of_acts (acts_of_tellings rfl) rfl rfl rfl
  | hydrates _ => exact undisturbed_of_acts (acts_of_tellings rfl) rfl rfl rfl
  | restarts _ | pulls _ _ _ _ | restsOn _ | cancels _ | decides _ | decidesAll _ _ | shutsDown =>
    exact absurd hc Bool.noConfusion

/-- An input that spares a bulk decision disturbs nothing, unless it completes the stream. -/
theorem Spares.undisturbed (h : s.Spares i) (hn : (s.transition i).completes = false) :
    s.Undisturbed (s.react i).2 := by
  cases h with
  | elapse => exact undisturbed_of_acts (acts_of_outbox_eq rfl) rfl rfl rfl
  | command hc => exact undisturbed_of_reaction hc (s.reaction _)
  | @refused c e he =>
    have hs : (s.react (.command c)).2 = s :=
      congrArg Prod.snd (perform_of_refuses (refuses_of_error he))
    rw [hs]
    exact .refl s
  | @event e he =>
    refine undisturbed_handle fun hl => ?_
    obtain ⟨generation, event⟩ := e
    cases event with
    | completed time => exact Bool.noConfusion (hl.symm.trans hn)
    | error message => exact Bool.noConfusion (hl.symm.trans (he message rfl))
    | _ => rfl

/-! ## Inputs that abort a bulk decision -/

/-- From one session to another no continuation was opened, but that of the single decision
    that the input may be. -/
def NoBulk (s : Session) (i : Input) (s' : Session) : Prop :=
  ∃ as, s.Acts s' as ∧ ∀ o ∈ openings as, o.2.isContinuation = true →
    ∃ callId approve reason, i = .command (.decideSingle callId approve reason) ∧
      o.2 = s.decisionRequest callId (.ofApprove approve) reason

theorem NoBulk.transition (h : s.NoBulk i (s.react i).2) : (s.transition i).NoBulk := by
  obtain ⟨as, ha, hn⟩ := h
  rw [Transition.NoBulk, ha.openings]
  exact hn

theorem OnlyTurns.noBulk (h : s.OnlyTurns s') : s.NoBulk i s' := by
  obtain ⟨as, ha, hn⟩ := h
  exact ⟨as, ha, fun o ho hc => absurd (hc.symm.trans (hn o ho)) Bool.noConfusion⟩

theorem conversationId_interrupt (s : Session) : s.interrupt.conversationId = s.conversationId := by
  cases ht : s.turn with
  | none => rw [interrupt_of_noTurn ht]
  | some turn => rw [interrupt_eq ht]

/-- A single decision opens its own continuation. -/
theorem noBulk_decides (s : Session) (callId : String) (approve : Bool) (reason : Option String) :
    s.NoBulk (.command (.decideSingle callId approve reason))
      (s.interrupt.beginContinuation callId (.ofApprove approve) reason) := by
  refine ⟨_, (acts_interrupt s).trans (acts_beginContinuation _ _ _ _), fun o ho _ => ?_⟩
  rw [openings_append, openings_interruptActs] at ho
  refine ⟨callId, approve, reason, rfl, ?_⟩
  rw [List.mem_singleton.1 ho, decisionRequest, conversationId_interrupt, decisionRequest]

/-- A stream that fails takes a bulk decision with it. -/
theorem ends_fail {turn : ActiveTurn} (ht : s.turn = some turn) (message : String) :
    (s.fail message).approvals.progress = none ∧ s.OnlyTurns (s.fail message) := by
  have hf : s.OnlyTurns (s.failed turn message) := onlyTurns_of_acts (acts_of_tellings rfl) rfl
  rw [fail_eq ht, approvals_settle]
  exact ⟨rfl, hf.trans (onlyTurns_settle _ _)⟩

/-- So does a command that interrupts the turn. -/
theorem Coherent.ends_of_reaction (h : s.Coherent) {c : Command} (hc : c.interrupts = true)
    {r : Reply} (hb : ∀ progress, r ≠ .progress progress)
    (hr : s.Reaction (.command c) (some (.ok r)) s') :
    s'.approvals.progress = none ∧ s.NoBulk (.command c) s' := by
  have hp : s.interrupt.approvals.progress = none := h.interrupt.2
  have hi := onlyTurns_interrupt s
  cases hr with
  | ignores hi => cases hi <;> exact absurd hc Bool.noConfusion
  | starts _ _ _ | queues _ _ | removes _ _ _ | hydrates _ => exact absurd hc Bool.noConfusion
  | decidesAll _ _ => exact absurd rfl (hb _)
  | restarts _ =>
    have hr : s.interrupt.OnlyTurns s.interrupt.releaseImmediate :=
      onlyTurns_of_acts (acts_of_outbox_eq rfl) rfl
    refine ⟨?_, (hi.trans (hr.trans (onlyTurns_beginTurn _ _))).noBulk⟩
    rw [approvals_beginTurn]
    exact hp
  | @pulls _ _ before after _ _ _ _ =>
    have hw := h.congr (s.withQueue ⟨before ++ after, true⟩) rfl rfl rfl rfl rfl
    have hq : s.OnlyTurns (s.withQueue ⟨before ++ after, true⟩) :=
      onlyTurns_of_acts (acts_of_tellings rfl) rfl
    refine ⟨?_, (hq.trans ((onlyTurns_interrupt _).trans (onlyTurns_beginTurn _ _))).noBulk⟩
    rw [approvals_beginTurn]
    exact hw.interrupt.2
  | restsOn _ =>
    rw [abortApprovals_eq]
    exact ⟨rfl, (onlyTurns_of_acts (acts_of_tellings rfl) rfl).noBulk⟩
  | cancels ht =>
    obtain ⟨turn, ht⟩ := Option.ne_none_iff_exists'.1 ht
    have hr : s.OnlyTurns s.releaseImmediate := onlyTurns_of_acts (acts_of_outbox_eq rfl) rfl
    have hc : s.OnlyTurns s.cancelled :=
      hr.trans ((onlyTurns_setPhase _ .cancelling).trans (onlyTurns_interrupt _))
    refine ⟨?_, (hc.trans ((onlyTurns_setPhase _ _).trans (onlyTurns_drainQueue _))).noBulk⟩
    rw [approvals_drainQueue, approvals_setPhase]
    exact (quiet_cancelled ht h.marked).2
  | decides _ =>
    refine ⟨?_, noBulk_decides s _ _ _⟩
    rw [approvals_beginContinuation]
    exact hp
  | shutsDown =>
    refine ⟨?_, (hi.trans (onlyTurns_setPhase _ _)).noBulk⟩
    rw [approvals_setPhase]
    exact hp

theorem Aborts.ends (h : s.Aborts i) (hc : s.Coherent) (hb : ¬(s.transition i).BeginsBulk) :
    (s.react i).2.approvals.progress = none ∧ s.NoBulk i (s.react i).2 := by
  cases h with
  | @event generation message hl =>
    obtain ⟨_, turn, ht⟩ := (s.isLive_iff _).1 hl
    have hs : (s.react (.event ⟨generation, .error message⟩)).2 = s.fail message :=
      handle_of_live hl
    obtain ⟨hp, ho⟩ := ends_fail ht message
    rw [hs]
    exact ⟨hp, ho.noBulk⟩
  | @command c r hi hr =>
    have hok : (s.react (.command c)).1 = some (.ok r) := congrArg some hr
    have hre := s.reaction (.command c)
    rw [hok] at hre
    exact hc.ends_of_reaction hi (fun p hp => hb ⟨p, by rw [transition, hok, hp]⟩) hre

/-! ## Telling that a bulk decision is over -/

/-- From one session to another it was told that no bulk decision runs. -/
def TellsOver (s s' : Session) : Prop :=
  ∃ es, s'.outbox = s.outbox ++ es ∧ .told (.approvalProgress none) ∈ es

theorem TellsOver.acts {as : List Effect} (h : s.TellsOver s') (ha : s'.Acts s'' as) :
    s.TellsOver s'' := by
  obtain ⟨es, ho, hm⟩ := h
  obtain ⟨fs, hf, _⟩ := ha
  exact ⟨es ++ fs, by rw [hf, ho, List.append_assoc], List.mem_append_left _ hm⟩

theorem TellsOver.transition (h : s.TellsOver (s.react i).2) :
    .told (.approvalProgress none) ∈ (s.transition i).effects := by
  obtain ⟨es, ho, hm⟩ := h
  have he : (s.transition i).effects = es := by
    rw [Session.transition, ho]
    exact List.drop_left
  rwa [he]

/-! ## Without a bulk decision -/

/-- The transitions that complete a stream are its own event. -/
theorem completes_iff (s : Session) (i : Input) : (s.transition i).completes = true ↔
    ∃ generation time, i = .event ⟨generation, .completed time⟩ ∧ s.isLive generation = true := by
  refine ⟨fun h => ?_, fun ⟨_, _, hi, hl⟩ => hi ▸ hl⟩
  rw [Transition.completes] at h
  split at h
  · next generation time hi => exact ⟨generation, time, hi, h⟩
  · exact absurd h Bool.noConfusion

end Session

end Dialogue
