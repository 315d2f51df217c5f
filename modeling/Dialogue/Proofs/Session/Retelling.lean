import Dialogue.Proofs.Session.Watching
import Mathlib.Data.List.Nodup

/-!
# What is told of a message, again and again

A message is told again whenever something is written to it, when it is finalized, and when it
is taken back to be continued. Each time it is told as it is in the session then, and messages
of a session only go on (`Transcript.Carries`). So whatever was told of a message before goes on
as what is told of it later, across all that happens in between (`Recounts`).

A session *retells* (`Session.Retells`) if this is so of what it tells on its way to another
session. Ways can be gone one after the other.

* `Recounts.tell`: a message may be told as it is, any number of times;
* `retells_interrupt`, `retells_complete`, `retells_fail`: the end of a stream retells;
* `retells_beginTurn`, `retells_beginContinuation`: so does the beginning of another one;
* `Coherent.retells`: and so every way of taking an input;
* `versions_go_on`: every version of a message goes on as each later version, after any inputs.
-/

namespace Dialogue

/-- The message that an update tells. -/
def Update.message? : Update → Option Message
  | .messageUpdated m | .messageFinalized m => some m
  | _ => none

/-- The versions of messages that updates tell, in order. -/
def versions (us : List Update) : List Message :=
  us.filterMap Update.message?

theorem versions_append (us vs : List Update) : versions (us ++ vs) = versions us ++ versions vs :=
  List.filterMap_append

theorem versions_finalized (ms : List Message) : versions (ms.map .messageFinalized) = ms := by
  rw [versions, List.filterMap_map]
  exact List.filterMap_some

/-- One version of a message goes on as another one. Versions of other messages may be
    anything. -/
def Message.GoesOnAs (k m : Message) : Prop :=
  m.id = k.id → k.Extends m

/-- What was told of messages goes on as what was told later, and as what they are now, if their
    identifiers tell them apart. -/
def Recounts (vs ms : List Message) : Prop :=
  (ms.map (·.id)).Nodup → vs.Pairwise Message.GoesOnAs ∧ ∀ k ∈ vs, ∃ m ∈ ms, k.Extends m

namespace Recounts

variable {vs ms ms' : List Message}

theorem grows (h : Recounts vs ms) (hg : Grows Message.Extends ms ms') : Recounts vs ms' := by
  intro hn
  obtain ⟨hp, hk⟩ := h (hn.sublist hg.map_id_prefix.sublist)
  refine ⟨hp, fun k hkv => ?_⟩
  obtain ⟨m, hm, hkm⟩ := hk k hkv
  obtain ⟨m', hm', hr⟩ := hg.exists_of_mem hm
  exact ⟨m', hm', hkm.trans hr⟩

/-- A message may be told as it is. -/
theorem tell (h : Recounts vs ms) {m : Message} (hm : m ∈ ms) : Recounts (vs ++ [m]) ms := by
  intro hn
  obtain ⟨hp, hk⟩ := h hn
  constructor
  · refine List.pairwise_append.2 ⟨hp, List.pairwise_singleton _ _, fun k hkv m' hm' hid => ?_⟩
    obtain rfl := List.mem_singleton.1 hm'
    -- What was told of it before is a version of the message with its identifier.
    obtain ⟨m', hm', hkm⟩ := hk k hkv
    rwa [List.inj_on_of_nodup_map hn hm hm' (hid.trans hkm.id.symm)]
  · intro k hkv
    rcases List.mem_append.1 hkv with hkv | hkv
    · exact hk k hkv
    · obtain rfl := List.mem_singleton.1 hkv
      exact ⟨k, hm, .refl k⟩

theorem tellAll (h : Recounts vs ms) {vs' : List Message} (hv : ∀ m ∈ vs', m ∈ ms) :
    Recounts (vs ++ vs') ms := by
  induction vs' generalizing vs with
  | nil =>
    rw [List.append_nil]
    exact h
  | cons m vs' ih =>
    rw [List.forall_mem_cons] at hv
    rw [List.append_cons]
    exact ih (h.tell hv.1) hv.2

end Recounts

namespace Session

open Effect Transcript

variable {s s' s'' : Session}

/-- What was told goes on as what the messages are now. -/
def Recounted (s : Session) : Prop :=
  Recounts (versions (updates s.outbox)) s.transcript.messages

/-- On the way from one session to another what is told goes on. -/
def Retells (s s' : Session) : Prop :=
  s.transcript.Lasting → s.Recounted → s'.transcript.Lasting ∧ s'.Recounted

theorem retells_refl (s : Session) : s.Retells s :=
  fun hl hr => ⟨hl, hr⟩

theorem Retells.trans (h : s.Retells s') (h' : s'.Retells s'') : s.Retells s'' :=
  fun hl hr => (h hl hr).elim h'

/-- Messages are told as they are afterwards. -/
theorem retells_of_carries {es : List Effect}
    (hc : s.transcript.Lasting → s.transcript.Carries s'.transcript)
    (ho : s'.outbox = s.outbox ++ es)
    (hv : ∀ m ∈ versions (updates es), m ∈ s'.transcript.messages) : s.Retells s' := by
  intro hl hr
  refine ⟨(hc hl).lasting, ?_⟩
  rw [Recounted, ho, updates_append, versions_append]
  exact (hr.grows (hc hl).grows).tellAll hv

/-- No message is told. -/
theorem retells_of_tellings (us : List Update) (hu : versions us = [])
    (ho : s'.outbox = s.outbox ++ tellings us) (hx : s'.transcript = s.transcript) :
    s.Retells s' := by
  refine retells_of_carries (fun hl => hx ▸ hl.carries) ho fun m hm => ?_
  rw [updates_tellings, hu] at hm
  exact absurd hm List.not_mem_nil

/-! ## Phases, the queue and bulk decisions -/

theorem versions_phaseUpdates (old new : Phase) : versions (phaseUpdates old new) = [] := by
  rw [phaseUpdates]
  split <;> rfl

theorem versions_abortUpdates (s : Session) : versions s.abortUpdates = [] := by
  rw [abortUpdates]
  split <;> rfl

theorem versions_bulkUpdates (step : BulkStep) : versions step.updates = [] := by
  cases step <;> rfl

theorem retells_setPhase (s : Session) (p : Phase) : s.Retells (s.setPhase p) := by
  rw [setPhase_eq]
  exact retells_of_tellings _ (versions_phaseUpdates _ _) rfl rfl

theorem retells_withQueue (s : Session) (q : InputQueue) : s.Retells (s.withQueue q) :=
  retells_of_tellings [.queueChanged q.entries] rfl rfl rfl

theorem retells_releaseImmediate (s : Session) : s.Retells s.releaseImmediate :=
  retells_of_tellings [] rfl (List.append_nil _).symm rfl

theorem retells_abortApprovals (s : Session) : s.Retells s.abortApprovals := by
  rw [abortApprovals_eq]
  exact retells_of_tellings _ s.versions_abortUpdates rfl rfl

/-! ## Ending a stream -/

theorem versions_finalUpdates (s : Session) (base : Usage) : versions (s.finalUpdates base) =
    (s.transcript.finalize (some (Usage.combine base s.usage))).1.toList := by
  rw [finalUpdates, versions_append, versions_finalized]
  exact List.append_nil _

/-- The message of a stream that ends is told as it is finalized. -/
theorem retells_of_finalize {usage : Option Usage} {es : List Effect}
    (hx : s'.transcript = (s.transcript.finalize usage).2) (ho : s'.outbox = s.outbox ++ es)
    (hv : versions (updates es) = (s.transcript.finalize usage).1.toList) : s.Retells s' := by
  refine retells_of_carries (fun hl => hx ▸ hl.carries_finalize usage) ho fun m hm => ?_
  rw [hx, messages_of_none (inProgress_finalize _ _), finalized_finalize]
  exact List.mem_append_right _ (hv ▸ hm)

theorem retells_ended (s : Session) (turn : ActiveTurn) (usage : Usage) (approvals : Coordinator)
    {us : List Update} (hu : versions us = []) : s.Retells (s.ended turn usage approvals us) := by
  refine retells_of_finalize rfl rfl ?_
  rw [updates_tellings, versions_append, versions_finalUpdates, hu, List.append_nil]

theorem retells_interrupt (s : Session) : s.Retells s.interrupt := by
  cases ht : s.turn with
  | none =>
    rw [interrupt_of_noTurn ht]
    exact retells_refl s
  | some turn =>
    rw [interrupt_eq ht]
    refine retells_of_finalize rfl rfl ?_
    rw [updates_cons_cancelled, updates_append, updates_stops, updates_tellings, List.nil_append,
      interruptUpdates, versions_append, versions_append, versions_finalUpdates,
      versions_abortUpdates, List.append_nil]
    exact List.append_nil _

/-! ## Opening a stream -/

/-- What is told when a stream is opened is the message that is continued. -/
theorem versions_openStream (resumed : Option Message) (generation : Nat) (request : Request)
    (old new : Phase) :
    versions (updates (tellings (resumed.toList.map fun m =>
        .messageUpdated { m with streaming := true }) ++
      .opened generation request :: tellings (phaseUpdates old new))) =
        resumed.toList.map fun m => { m with streaming := true } := by
  rw [updates_append, updates_cons_opened, updates_tellings, updates_tellings, versions_append,
    versions_phaseUpdates, List.append_nil]
  cases resumed <;> rfl

/-- The input of a turn comes last and is told. -/
theorem retells_withInput (hp : s.transcript.inProgress = none) (content : String) :
    s.Retells (s.withInput content) := by
  refine retells_of_carries (fun _ => carries_push hp _) rfl fun m hm => ?_
  rw [List.mem_singleton.1 hm, messages_of_none (t := (s.withInput content).transcript) hp]
  exact List.mem_append_right _ List.mem_cons_self

theorem retells_beginTurn (hp : s.transcript.inProgress = none) (content : String) :
    s.Retells (s.beginTurn content) := by
  refine (retells_withInput hp content).trans ?_
  rw [beginTurn_eq, openStream_eq]
  refine retells_of_carries (fun hl => hl.carries) rfl fun m hm => ?_
  rw [versions_openStream] at hm
  exact absurd hm List.not_mem_nil

/-- The message that is continued is told as it comes last again. -/
theorem retells_beginContinuation (hp : s.transcript.inProgress = none) (callId : String)
    (decision : Decision) (reason : Option String) :
    s.Retells (s.beginContinuation callId decision reason) := by
  have ho : (s.beginContinuation callId decision reason).outbox = s.outbox ++ _ :=
    congrArg Session.outbox (s.withoutResumed.openStream_eq .approvalContinuation
      (s.decisionRequest callId decision reason) s.transcript.takeLastAssistant.1)
  refine retells_of_carries (moves_beginContinuation hp callId decision reason).carries ho
    fun m hm => ?_
  rw [versions_openStream] at hm
  rw [beginContinuation_eq, openStream_eq, withoutResumed]
  rcases s.transcript.takeLastAssistant_cases with ⟨ht, _⟩ | ⟨before, k, hf, _, ht⟩
  · rw [ht] at hm
    exact absurd hm List.not_mem_nil
  · rw [ht] at hm ⊢
    rw [List.mem_singleton.1 hm, resumedTranscript,
      resume_of_none (t := { s.transcript with finalized := before }) hp, messages_of_some rfl]
    exact List.mem_append_right _ List.mem_cons_self

theorem retells_drainQueue (hp : s.turn = none → s.transcript.inProgress = none) :
    s.Retells s.drainQueue := by
  rcases s.drainQueue_cases with ⟨hd, _⟩ | ⟨entry, rest, hc, _, hd⟩
  · rw [hd]
    exact retells_refl s
  · rw [hd]
    exact (s.retells_withQueue { s.queue with entries := rest }).trans
      (retells_beginTurn (s := s.afterHead rest) (hp hc.noTurn) _)

theorem retells_settle (hp : s.transcript.inProgress = none) (outcome : Outcome) :
    s.Retells (s.settle outcome) := by
  have hr : s.Retells (s.rested outcome) :=
    retells_of_tellings (.turnFinished outcome :: phaseUpdates s.phase .idle)
      (versions_phaseUpdates s.phase .idle) rfl rfl
  rw [settle_eq]
  exact hr.trans (retells_drainQueue (s := s.rested outcome) fun _ => hp)

/-! ## Every input -/

theorem retells_complete {turn : ActiveTurn} (ht : s.turn = some turn) (time : Option Count) :
    s.Retells (s.complete time) := by
  have hc : s.Retells (s.completed turn time) := s.retells_ended turn _ _ (versions_bulkUpdates _)
  have hp : (s.completed turn time).transcript.inProgress = none := inProgress_finalize _ _
  have hq := hc.trans ((s.completed turn time).retells_releaseImmediate.trans
    (retells_settle (s := (s.completed turn time).releaseImmediate) hp .completed))
  rw [complete_eq ht]
  cases s.approvals.complete.1 with
  | next callId decision progress =>
    exact hc.trans (retells_beginContinuation hp callId decision none)
  | finished progress | idle => exact hq

theorem retells_fail {turn : ActiveTurn} (ht : s.turn = some turn) (message : String) :
    s.Retells (s.fail message) := by
  have hf : s.Retells (s.failed turn message) :=
    s.retells_ended turn s.usage {} s.versions_abortUpdates
  rw [fail_eq ht]
  exact hf.trans (retells_settle (s := s.failed turn message) (inProgress_finalize _ _) _)

/-- What an event writes is told, except for an account that is noted. -/
theorem Writes.retells (h : s.Writes s') : s.Retells s' := by
  have hc : s.transcript.Lasting → s.transcript.Carries s'.transcript := h.carries
  cases h with
  | nothing hx ho =>
    exact retells_of_tellings [] rfl (ho.trans (List.append_nil _).symm) hx
  | @notes _ ticks hx ht ho =>
    refine retells_of_carries hc ho fun m hm => ?_
    rw [updates_tellings] at hm
    obtain ⟨u, hu, hm⟩ := List.mem_filterMap.1 hm
    have htick := ht u hu
    cases u with
    | messageUpdated | messageFinalized => exact Bool.noConfusion htick
    | _ => exact absurd hm (Option.some_ne_none m).symm
  | @goesOn p m hp _ _ hx ho =>
    refine retells_of_carries hc ho fun m' hm => ?_
    rw [List.mem_singleton.1 hm, hx, setCurrent_of_some hp, messages_of_some rfl]
    exact List.mem_append_right _ List.mem_cons_self
  | @begins m hp _ _ _ hx ho =>
    refine retells_of_carries hc ho fun m' hm => ?_
    rw [List.mem_singleton.1 hm, hx, messages_of_some rfl]
    exact List.mem_append_right _ List.mem_cons_self

/-- Stored messages are told as they are loaded, into a session in which there was none. -/
theorem retells_hydrated (hc : s.canHydrate = true) (messages : List Message) :
    s.Retells (s.hydrated messages) := by
  have hx : s.transcript = {} := ((s.canHydrate_iff).1 hc).2.2
  refine retells_of_carries (fun _ => ?_) rfl fun m hm => ?_
  · rw [hx]
    exact ⟨.nil _, lasting_of_none rfl⟩
  · rw [updates_tellings, versions_finalized] at hm
    exact List.mem_append_left _ hm

/-- Every way of taking an input retells. -/
theorem Coherent.retells (h : s.Coherent) {i : Input} {r : Option (Except Error Reply)}
    (hr : s.Reaction i r s') : s.Retells s' := by
  have hi : s.Retells s.interrupt := s.retells_interrupt
  have hq : s.interrupt.transcript.inProgress = none := h.interrupt.1.inProgress
  cases hr with
  | refuses _ | ignores _ => exact retells_refl s
  | waits => exact retells_of_tellings [] rfl (List.append_nil _).symm rfl
  | writes _ he => exact (writes_apply h.belongsTo he).retells
  | completes hl =>
    obtain ⟨_, turn, ht⟩ := (s.isLive_iff _).1 hl
    exact retells_complete ht _
  | fails hl =>
    obtain ⟨_, turn, ht⟩ := (s.isLive_iff _).1 hl
    exact retells_fail ht _
  | starts _ hp _ => exact retells_beginTurn (h.quiet (h.idle_iff.1 hp)).inProgress _
  | @queues content _ _ =>
    have hw : s.Retells (s.withQueued content) :=
      retells_of_tellings [.queueChanged _] rfl rfl rfl
    exact hw.trans (retells_drainQueue (s := s.withQueued content) fun ht => (h.quiet ht).inProgress)
  | restarts _ =>
    exact (hi.trans (retells_releaseImmediate _)).trans
      (retells_beginTurn (s := s.interrupt.releaseImmediate) hq _)
  | @pulls _ _ before after _ _ _ _ =>
    -- The queue is told first, in a session that is still coherent.
    have hw := h.congr (s.withQueue ⟨before ++ after, true⟩) rfl rfl rfl rfl rfl
    exact ((s.retells_withQueue _).trans (retells_interrupt _)).trans
      (retells_beginTurn hw.interrupt.1.inProgress _)
  | removes _ _ _ => exact s.retells_withQueue _
  | restsOn _ => exact s.retells_releaseImmediate.trans (retells_abortApprovals _)
  | cancels ht =>
    -- The phase is told before the stream is given up, and again after.
    obtain ⟨turn, ht⟩ := Option.ne_none_iff_exists'.1 ht
    have hc := ((s.retells_releaseImmediate.trans (retells_setPhase _ .cancelling)).trans
      (retells_interrupt _)).trans (retells_setPhase _ .idle)
    refine hc.trans (retells_drainQueue fun _ => ?_)
    rw [transcript_setPhase]
    exact (quiet_cancelled ht h.marked).1.inProgress
  | decides _ => exact hi.trans (retells_beginContinuation hq _ _ _)
  | @decidesAll decision _ rest _ _ =>
    have hb : s.interrupt.Retells (s.bulkBegun rest ⟨0, rest.length + 1, decision⟩) :=
      retells_of_tellings [.approvalProgress _] rfl rfl rfl
    exact (hi.trans hb).trans (retells_beginContinuation
      (s := s.bulkBegun rest ⟨0, rest.length + 1, decision⟩) hq _ _ _)
  | hydrates hc => exact retells_hydrated hc _
  | shutsDown => exact hi.trans (retells_setPhase _ .idle)

theorem recounted_run (conversationId : String) (interval now : Nat) (ids : Ids)
    (inputs : List Input) : ((start conversationId interval now ids).run inputs).Recounted := by
  refine (run_induction (P := fun s => (s.Coherent ∧ s.transcript.Lasting) ∧ s.Recounted)
    ⟨⟨?_, ?_⟩, fun _ => ⟨.nil, ?_⟩⟩ fun s i _ hs => ?_).2
  · exact coherent_start conversationId interval now ids
  · exact lasting_of_none rfl
  · exact fun _ hk => absurd hk List.not_mem_nil
  · have hr := hs.1.1.retells (s.reaction i) hs.1.2 hs.2
    exact ⟨⟨hs.1.1.react i, hr.1⟩, hr.2⟩

/-- Every version of a message that is told goes on as each version that is told later, whatever
    the inputs, if the identifiers of messages tell them apart. -/
theorem versions_go_on (conversationId : String) (interval now : Nat) (ids : Ids)
    (inputs : List Input)
    (hn : (((start conversationId interval now ids).run inputs).transcript.messages.map
      (·.id)).Nodup) :
    (versions (updates ((start conversationId interval now ids).run inputs).outbox)).Pairwise
      Message.GoesOnAs :=
  ((recounted_run conversationId interval now ids inputs) hn).1

end Session

end Dialogue
