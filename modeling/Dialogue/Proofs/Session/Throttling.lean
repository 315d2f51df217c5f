import Dialogue.Proofs.Session.Fates

/-!
# What throttling leaves alone

Only updates about the account are throttled. Apart from these, and from the throttle itself,
nothing that a session does depends on its throttle: it does the same as the session without
one (`Session.canonical`).

An operation is `Unthrottled` if that holds of it:

* `Unthrottled.comp`: so it does of one operation after another;
* `unthrottled_openStream`, `unthrottled_interrupt`, `unthrottled_complete`: so it does of
  opening a stream and of ending one;
* `unthrottled_recordUsage`: so it does of a report, which may be told or not;
* `canonical_react`: so it does of every input, and the reply is the same too;
* `alike_run`: two sessions that differ in their throttles do the same, input by input.
-/

namespace Dialogue

namespace Effect

/-- Whether an effect is more than an update about the account. -/
def isNoTick : Effect → Bool
  | .told u => !u.isTick
  | _ => true

/-- Effects without the updates about the account. -/
def withoutTicks (es : List Effect) : List Effect :=
  es.filter isNoTick

theorem withoutTicks_append (as bs : List Effect) :
    withoutTicks (as ++ bs) = withoutTicks as ++ withoutTicks bs :=
  List.filter_append as bs

theorem withoutTicks_absorb (as bs : List Effect) :
    withoutTicks (withoutTicks as ++ bs) = withoutTicks (as ++ bs) := by
  rw [withoutTicks_append, withoutTicks_append, withoutTicks, withoutTicks, List.filter_filter]
  simp only [Bool.and_self]

theorem withoutTicks_idem (es : List Effect) :
    withoutTicks (withoutTicks es) = withoutTicks es := by
  have h := withoutTicks_absorb es []
  rwa [List.append_nil, List.append_nil] at h

end Effect

namespace Session

open Effect

/-- The session without its throttle, and without what was told of the account. -/
def canonical (s : Session) : Session :=
  { s with throttle := ⟨0, none⟩, outbox := withoutTicks s.outbox }

theorem canonical_canonical (s : Session) : s.canonical.canonical = s.canonical := by
  simp only [canonical, withoutTicks_idem]

/-- What an operation does depends on nothing of the throttle, apart from what is told of the
    account. -/
def Unthrottled (f : Session → Session) : Prop :=
  ∀ s, (f s).canonical = (f s.canonical).canonical

variable {f g : Session → Session}

theorem Unthrottled.comp (hf : Unthrottled f) (hg : Unthrottled g) :
    Unthrottled fun s => g (f s) := by
  intro s
  show (g (f s)).canonical = (g (f s.canonical)).canonical
  rw [hg, hf, ← hg]

/-! ## Opening streams -/

theorem unthrottled_tell (u : Update) : Unthrottled (·.tell u) := by
  intro s
  simp only [tell_eq, canonical, withoutTicks_absorb]

theorem unthrottled_setPhase (p : Phase) : Unthrottled (·.setPhase p) := by
  intro s
  simp only [setPhase_eq, canonical, withoutTicks_absorb]

theorem unthrottled_releaseImmediate : Unthrottled releaseImmediate := by
  intro s
  simp only [releaseImmediate, canonical, withoutTicks_idem]

theorem unthrottled_withQueue (q : InputQueue) : Unthrottled (·.withQueue q) := by
  intro s
  simp only [withQueue, canonical, withoutTicks_absorb]

theorem unthrottled_openStream (kind : TurnKind) (request : Request) (resumed : Option Message) :
    Unthrottled (·.openStream kind request resumed) := by
  intro s
  simp only [openStream_eq, canonical, withoutTicks_absorb]
  rfl

theorem unthrottled_withInput (content : String) : Unthrottled (·.withInput content) := by
  intro s
  simp only [withInput, canonical, withoutTicks_absorb]
  rfl

theorem unthrottled_beginTurn (content : String) : Unthrottled (·.beginTurn content) := by
  intro s
  simp only [beginTurn_eq]
  rw [unthrottled_openStream, unthrottled_withInput, ← unthrottled_openStream]
  rfl

theorem unthrottled_withoutResumed : Unthrottled withoutResumed := by
  intro s
  simp only [withoutResumed, canonical, withoutTicks_idem]

theorem unthrottled_beginContinuation (callId : String) (decision : Decision)
    (reason : Option String) : Unthrottled (·.beginContinuation callId decision reason) := by
  intro s
  simp only [beginContinuation_eq]
  rw [unthrottled_openStream, unthrottled_withoutResumed, ← unthrottled_openStream]
  rfl

/-- The queue is drained under the same conditions, and the same entry is started. -/
theorem unthrottled_drainQueue : Unthrottled drainQueue := by
  intro s
  have hc : s.canonical.CanDrain ↔ s.CanDrain :=
    ⟨fun h => ⟨h.idle, h.noTurn, h.free⟩, fun h => ⟨h.idle, h.noTurn, h.free⟩⟩
  by_cases h : s.CanDrain
  · rw [drainQueue_of_canDrain h, drainQueue_of_canDrain (hc.2 h),
      show s.canonical.queue = s.queue from rfl]
    cases s.queue.entries with
    | nil => exact s.canonical_canonical.symm
    | cons entry rest =>
      exact ((unthrottled_withQueue _).comp (unthrottled_beginTurn entry.content)) s
  · rw [drainQueue_of_not_canDrain h, drainQueue_of_not_canDrain (mt hc.1 h), canonical_canonical]

/-! ## Ending streams -/

theorem unthrottled_abortApprovals : Unthrottled abortApprovals := by
  intro s
  simp only [abortApprovals_eq, canonical, withoutTicks_absorb]
  rfl

theorem unthrottled_interrupt : Unthrottled interrupt := by
  intro s
  cases ht : s.turn with
  | none =>
    have ht' : s.canonical.turn = none := ht
    rw [interrupt_of_noTurn ht, interrupt_of_noTurn ht', canonical_canonical]
  | some turn =>
    have ht' : s.canonical.turn = some turn := ht
    rw [interrupt_eq ht, interrupt_eq ht']
    simp only [canonical, withoutTicks_absorb]
    rfl

theorem unthrottled_settle (outcome : Outcome) : Unthrottled (·.settle outcome) :=
  (unthrottled_tell _).comp ((unthrottled_setPhase _).comp unthrottled_drainQueue)

theorem unthrottled_completed (turn : ActiveTurn) (time : Option Count) :
    Unthrottled (·.completed turn time) := by
  intro s
  simp only [completed, ended, canonical, withoutTicks_absorb]
  rfl

theorem unthrottled_failed (turn : ActiveTurn) (message : String) :
    Unthrottled (·.failed turn message) := by
  intro s
  simp only [failed, ended, releaseImmediate, canonical, withoutTicks_absorb]
  rfl

theorem unthrottled_complete (time : Option Count) : Unthrottled (·.complete time) := by
  intro s
  cases ht : s.turn with
  | none =>
    have ht' : s.canonical.turn = none := ht
    simp only [complete, ht, ht', canonical_canonical]
  | some turn =>
    have ht' : s.canonical.turn = some turn := ht
    simp only [complete_eq ht, complete_eq ht', show s.canonical.approvals = s.approvals from rfl]
    cases s.approvals.complete.1 with
    | next callId decision progress =>
      exact ((unthrottled_completed turn time).comp (unthrottled_beginContinuation _ _ _)) s
    | finished progress | idle =>
      exact ((unthrottled_completed turn time).comp
        (unthrottled_releaseImmediate.comp (unthrottled_settle _))) s

theorem unthrottled_fail (message : String) : Unthrottled (·.fail message) := by
  intro s
  cases ht : s.turn with
  | none =>
    have ht' : s.canonical.turn = none := ht
    simp only [fail, ht, ht', canonical_canonical]
  | some turn =>
    have ht' : s.canonical.turn = some turn := ht
    simp only [fail_eq ht, fail_eq ht']
    exact ((unthrottled_failed turn message).comp (unthrottled_settle _)) s

/-! ## Events -/

/-- A report is accounted for, whether it is told or not. -/
theorem unthrottled_recordUsage (delta : Usage) : Unthrottled (·.recordUsage delta) := by
  intro s
  have hticks (b : Bool) (turn session : Usage) : withoutTicks
      (tellings (if b then [.usageTick turn session] else [])) = [] := by
    cases b <;> rfl
  simp only [recordUsage_eq, canonical, withoutTicks_append, withoutTicks_idem, hticks]
  rfl

theorem unthrottled_updateCurrent (m : Message) : Unthrottled (·.updateCurrent m) := by
  intro s
  simp only [updateCurrent, tellCurrent_eq, canonical, withoutTicks_absorb]

theorem unthrottled_appendText (text : String) : Unthrottled (·.appendText text) := by
  intro s
  simp only [appendText]
  split
  · exact s.canonical_canonical.symm
  · exact unthrottled_updateCurrent _ { s.ensureCurrent.2 with ids := _ }

theorem unthrottled_applyPending (us : List ToolUpdate) : Unthrottled (·.applyPending us) := by
  intro s
  simp only [applyPending]
  split
  · exact s.canonical_canonical.symm
  · rw [show s.canonical.ensureCurrent = (s.ensureCurrent.1, s.ensureCurrent.2.canonical) from rfl]
    split
    · exact unthrottled_updateCurrent _ s.ensureCurrent.2
    · exact (canonical_canonical _).symm

theorem unthrottled_applyTool (kind : ToolEvent) (u : ToolUpdate) :
    Unthrottled (·.applyTool kind u) := by
  intro s
  simp only [applyTool]
  split
  · rw [show s.canonical.ensureCurrent = (s.ensureCurrent.1, s.ensureCurrent.2.canonical) from rfl]
    split
    · exact unthrottled_updateCurrent _ s.ensureCurrent.2
    · exact (canonical_canonical _).symm
  · rw [show s.canonical.transcript.currentOf? s.canonical.generation =
      s.transcript.currentOf? s.generation from rfl]
    cases s.transcript.currentOf? s.generation with
    | none => exact s.canonical_canonical.symm
    | some m =>
      simp only
      split
      · exact unthrottled_updateCurrent _ s
      · exact s.canonical_canonical.symm

theorem unthrottled_apply (e : TurnEvent) : Unthrottled (·.apply e) := by
  cases e with
  | ready runId =>
    intro s
    simp only [apply, accept, canonical, withoutTicks_idem]
  | token text => exact unthrottled_appendText text
  | toolsPending us => exact unthrottled_applyPending us
  | tool kind u => exact unthrottled_applyTool kind u
  | usage report source =>
    by_cases h : source = .main
    · intro s
      simp only [apply, if_pos h]
      exact unthrottled_recordUsage report s
    · intro s
      simp only [apply, if_neg h, canonical_canonical]
  | firstToken time => exact unthrottled_recordUsage _
  | completed time => exact unthrottled_complete time
  | error message => exact unthrottled_fail message

theorem unthrottled_handle (e : Envelope) : Unthrottled (·.handle e) := by
  intro s
  simp only [handle, show s.canonical.isLive e.generation = s.isLive e.generation from rfl]
  split
  · exact unthrottled_apply e.event s
  · exact s.canonical_canonical.symm

/-! ## Commands -/

/-- A command to the session without its throttle has the same reply, and leaves the same. -/
def AgreesOn (s : Session) (c : Command) : Prop :=
  (s.perform c).1 = (s.canonical.perform c).1 ∧
    (s.perform c).2.canonical = (s.canonical.perform c).2.canonical

variable (s : Session)

/-- A command that is refused changes nothing in either. -/
theorem agreesOn_of_refuses {c : Command} {e : Error} (h : s.Refuses c e)
    (h' : s.canonical.Refuses c e) : s.AgreesOn c := by
  rw [AgreesOn, perform_of_refuses h, perform_of_refuses h']
  exact ⟨rfl, s.canonical_canonical.symm⟩

theorem agreesOn_submit (content : String) : s.AgreesOn (.submit content) := by
  cases hb : Text.isBlank content with
  | true => exact agreesOn_of_refuses s (.blankSubmit hb) (.blankSubmit hb)
  | false =>
    by_cases h : s.phase = .idle ∧ s.queue.entries = []
    · have h' : s.canonical.submit content = _ := submit_started hb h.1 h.2
      rw [AgreesOn, perform, perform, submit_started hb h.1 h.2, h']
      exact ⟨rfl, unthrottled_beginTurn content s⟩
    · have hn : s.phase ≠ .idle ∨ s.queue.entries ≠ [] := Decidable.not_and_iff_not_or_not.1 h
      have h' : s.canonical.submit content = _ := submit_queued hb hn
      have hq : Unthrottled (·.withQueued content) := fun s => by
        simp only [withQueued, withQueue, canonical, withoutTicks_absorb]
        rfl
      rw [AgreesOn, perform, perform, submit_queued hb hn, h']
      exact ⟨rfl, (hq.comp unthrottled_drainQueue) s⟩

theorem agreesOn_startTurn (content : String) : s.AgreesOn (.startTurn content) := by
  cases hb : Text.isBlank content with
  | true => exact agreesOn_of_refuses s (.blankStart hb) (.blankStart hb)
  | false =>
    have hn : ¬Text.isBlank content = true := by rw [hb]; exact Bool.noConfusion
    rw [AgreesOn, perform, perform, startTurn, if_neg hn, startTurn, if_neg hn]
    exact ⟨rfl, (unthrottled_interrupt.comp
      (unthrottled_releaseImmediate.comp (unthrottled_beginTurn content))) s⟩

theorem agreesOn_submitNow (id : String) : s.AgreesOn (.submitNow id) := by
  rw [AgreesOn, perform, perform, submitNow, submitNow, show s.canonical.queue = s.queue from rfl]
  cases s.queue.takeImmediate id with
  | error e => exact ⟨rfl, s.canonical_canonical.symm⟩
  | ok taken =>
    obtain ⟨entry, queue⟩ := taken
    exact ⟨rfl, ((unthrottled_withQueue queue).comp
      (unthrottled_interrupt.comp (unthrottled_beginTurn entry.content))) s⟩

theorem agreesOn_removeQueued (id : String) : s.AgreesOn (.removeQueued id) := by
  rw [AgreesOn, perform, perform, removeQueued, removeQueued,
    show s.canonical.queue = s.queue from rfl]
  cases s.queue.remove? id with
  | none => exact ⟨rfl, s.canonical_canonical.symm⟩
  | some taken => exact ⟨rfl, unthrottled_withQueue taken.2 s⟩

theorem agreesOn_cancel : s.AgreesOn .cancel := by
  rw [AgreesOn, perform, perform, cancel, cancel]
  cases ht : s.turn with
  | none =>
    have h : s.releaseImmediate.turn.isNone = true := by rw [releaseImmediate, ht]; rfl
    have h' : s.canonical.releaseImmediate.turn.isNone = true := h
    simp only [h, h', if_true, true_and]
    exact (unthrottled_releaseImmediate.comp unthrottled_abortApprovals) s
  | some turn =>
    have h : s.releaseImmediate.turn.isNone = false := by rw [releaseImmediate, ht]; rfl
    have h' : s.canonical.releaseImmediate.turn.isNone = false := h
    simp only [h, h', Bool.false_eq_true, if_false, true_and]
    exact (unthrottled_releaseImmediate.comp ((unthrottled_setPhase .cancelling).comp
      (unthrottled_interrupt.comp ((unthrottled_setPhase .idle).comp unthrottled_drainQueue)))) s

theorem agreesOn_decideSingle (callId : String) (approve : Bool) (reason : Option String) :
    s.AgreesOn (.decideSingle callId approve reason) := by
  cases hb : Text.isBlank callId with
  | true => exact agreesOn_of_refuses s (.blankDecision hb) (.blankDecision hb)
  | false =>
    have hn : ¬Text.isBlank callId = true := by rw [hb]; exact Bool.noConfusion
    rw [AgreesOn, perform, perform, decideSingle, if_neg hn, decideSingle, if_neg hn]
    exact ⟨rfl, (unthrottled_interrupt.comp (unthrottled_beginContinuation _ _ _)) s⟩

theorem unthrottled_bulkBegun (rest : List String) (progress : Progress) :
    Unthrottled (·.bulkBegun rest progress) := by
  have hb : Unthrottled fun s =>
      tell { s with approvals := ⟨rest, some progress⟩ } (.approvalProgress (some progress)) := by
    intro s
    simp only [tell_eq, canonical, withoutTicks_absorb]
  exact unthrottled_interrupt.comp hb

theorem agreesOn_decideBulk (decision : Decision) : s.AgreesOn (.decideBulk decision) := by
  cases hp : s.approvals.progress with
  | some p =>
    have hr : s.approvals.progress ≠ none := by rw [hp]; exact Option.some_ne_none p
    exact agreesOn_of_refuses s (.bulkRunning hr) (.bulkRunning hr)
  | none =>
    cases ha : s.approvable.map (·.callId) with
    | nil =>
      have ha := List.map_eq_nil_iff.1 ha
      exact agreesOn_of_refuses s (.nothingApprovable hp ha) (.nothingApprovable hp ha)
    | cons first rest =>
      have hok (s : Session) (hp : s.approvals.progress = none)
          (ha : s.approvable.map (·.callId) = first :: rest) :
          (s.decideBulk decision).1 = .ok ⟨0, rest.length + 1, decision⟩ := by
        rw [decideBulk, Coordinator.isDraining, hp, Option.isSome_none, if_neg Bool.noConfusion]
        simp only [ha]
        rfl
      have hs := decideBulk_of_approvable hp ha decision
      have hs' := decideBulk_of_approvable (s := s.canonical) hp ha decision
      refine ⟨?_, ?_⟩
      · exact congrArg (Except.map Reply.progress)
          ((hok s hp ha).trans (hok s.canonical hp ha).symm)
      · show (s.decideBulk decision).2.canonical = (s.canonical.decideBulk decision).2.canonical
        rw [hs, hs']
        exact ((unthrottled_bulkBegun rest _).comp (unthrottled_beginContinuation _ _ _)) s

theorem agreesOn_hydrate (messages : List Message) : s.AgreesOn (.hydrate messages) := by
  rw [AgreesOn, perform, perform, hydrate, hydrate,
    show s.canonical.canHydrate = s.canHydrate from rfl,
    show s.canonical.transcript = s.transcript from rfl]
  obtain ⟨taken, transcript⟩ := s.transcript.hydrate messages
  cases s.canHydrate with
  | false => exact ⟨rfl, s.canonical_canonical.symm⟩
  | true =>
    cases taken with
    | false => exact ⟨rfl, s.canonical_canonical.symm⟩
    | true =>
      simp only [if_true, foldl_tell, canonical, withoutTicks_absorb, and_self]

theorem agreesOn (c : Command) : s.AgreesOn c := by
  cases c with
  | submit content => exact agreesOn_submit s content
  | startTurn content => exact agreesOn_startTurn s content
  | submitNow id => exact agreesOn_submitNow s id
  | removeQueued id => exact agreesOn_removeQueued s id
  | cancel => exact agreesOn_cancel s
  | decideSingle callId approve reason => exact agreesOn_decideSingle s callId approve reason
  | decideBulk decision => exact agreesOn_decideBulk s decision
  | hydrate messages => exact agreesOn_hydrate s messages
  | snapshot => exact ⟨rfl, s.canonical_canonical.symm⟩
  | shutdown => exact ⟨rfl, (unthrottled_interrupt.comp (unthrottled_setPhase .idle)) s⟩

/-! ## Every input -/

/-- The reply to an input, and what is left but for the throttle, do not depend on the
    throttle. -/
theorem canonical_react (i : Input) : (s.react i).1 = (s.canonical.react i).1 ∧
    (s.react i).2.canonical = (s.canonical.react i).2.canonical := by
  cases i with
  | command c =>
    obtain ⟨hr, hs⟩ := agreesOn s c
    exact ⟨congrArg some hr, hs⟩
  | event e => exact ⟨rfl, unthrottled_handle e s⟩
  | elapse time =>
    refine ⟨rfl, ?_⟩
    simp only [react, elapse, canonical, withoutTicks_idem]

end Session

/-! ## Two runs -/

/-- Two transitions differ in throttling alone: they take the same input in the same session,
    with the same reply, and do the same to the outside, apart from the throttle and from what
    is told of the account. -/
structure Transition.Alike (t t' : Transition) : Prop where
  before : t.before.canonical = t'.before.canonical
  input : t.input = t'.input
  reply : t.reply = t'.reply
  effects : Effect.withoutTicks t.effects = Effect.withoutTicks t'.effects

namespace Session

open Effect

variable {s s' : Session}

/-- The outbox only grows. -/
theorem Coherent.outbox_react (h : s.Coherent) (ha : s.approvals.Tallied) (i : Input) :
    (s.react i).2.outbox = s.outbox ++ (s.transition i).effects := by
  obtain ⟨marks, hy, _⟩ := h.turns_of_reaction ha (s.reaction i) rfl
  exact hy.effects.1

theorem alike_react (hs : s.Coherent) (ha : s.approvals.Tallied) (hs' : s'.Coherent)
    (h : s.canonical = s'.canonical) (i : Input) :
    (s.transition i).Alike (s'.transition i) ∧
      (s.react i).2.canonical = (s'.react i).2.canonical := by
  have happ : s.canonical.approvals = s'.canonical.approvals := congrArg Session.approvals h
  have ha' : s'.approvals.Tallied := by
    rwa [show s.approvals = s'.approvals from happ] at ha
  obtain ⟨hr, hc⟩ := s.canonical_react i
  obtain ⟨hr', hc'⟩ := s'.canonical_react i
  have hcan : (s.react i).2.canonical = (s'.react i).2.canonical := by rw [hc, hc', h]
  refine ⟨⟨h, rfl, ?_, ?_⟩, hcan⟩
  · show (s.react i).1 = (s'.react i).1
    rw [hr, hr', h]
  · -- What is new in the outboxes is the same, since what was there before is.
    have ho : withoutTicks (s.react i).2.outbox = withoutTicks (s'.react i).2.outbox :=
      congrArg Session.outbox hcan
    have hb : withoutTicks s.outbox = withoutTicks s'.outbox := congrArg Session.outbox h
    rw [hs.outbox_react ha, hs'.outbox_react ha', withoutTicks_append, withoutTicks_append,
      hb] at ho
    exact List.append_cancel_left ho

theorem alike_run (hs : s.Coherent) (ha : s.approvals.Tallied) (hs' : s'.Coherent)
    (h : s.canonical = s'.canonical) (inputs : List Input) :
    List.Forall₂ Transition.Alike (s.history inputs) (s'.history inputs) ∧
      (s.run inputs).canonical = (s'.run inputs).canonical := by
  induction inputs generalizing s s' with
  | nil => exact ⟨.nil, h⟩
  | cons i inputs ih =>
    obtain ⟨ht, hn⟩ := alike_react hs ha hs' h i
    obtain ⟨hh, hr⟩ := ih (hs.react i) (hs.tallied ha i) (hs'.react i) hn
    exact ⟨.cons ht hh, hr⟩

end Session

end Dialogue
