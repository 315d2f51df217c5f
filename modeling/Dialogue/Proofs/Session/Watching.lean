import Dialogue.Proofs.Session.Growth
import Dialogue.Proofs.Transcript.Tracking

/-!
# What the watchers know

A watcher that notes every update (`Replica.note`) can tell the phase of a session, its
queue, its bulk decision and all its messages: the last update of a kind says how things
stand, and a message takes the place of the one with its identifier, or comes last.

What is noted *mirrors* the session (`Replica.Mirrors`), except that the usage of the
message in progress may be older. A session whose updates give such a replica is
*mirrored* (`Session.Mirrored`).

* `Mirrored.ended`, `Mirrored.interrupt`: the end of a stream is told, with its message
  and what becomes of a bulk decision;
* `Mirrored.beginTurn`, `Mirrored.beginContinuation`: so are the input of a turn, and the
  message that is continued;
* `Mirrored.reaction`: so every way of taking an input keeps a session mirrored;
* `updates_rebuild_snapshot`: the updates rebuild what can be seen, after any inputs.
-/

namespace Dialogue

/-- What a watcher has noted of a session. -/
structure Replica where
  phase : Phase := .idle
  queue : List QueuedInput := []
  progress : Option Progress := none
  messages : List Message := []
  deriving DecidableEq, Repr

namespace Replica

/-- Note an update. Updates of the account are not needed to know the rest. -/
def note (r : Replica) : Update → Replica
  | .stateChanged phase => { r with phase }
  | .messageUpdated m | .messageFinalized m => { r with messages := putMessage m r.messages }
  | .usageTick _ _ => r
  | .approvalProgress progress => { r with progress }
  | .queueChanged queue => { r with queue }
  | .turnFinished _ => r

/-- Note updates in order. -/
def noteAll (r : Replica) (us : List Update) : Replica :=
  us.foldl note r

theorem noteAll_append (r : Replica) (us vs : List Update) :
    r.noteAll (us ++ vs) = (r.noteAll us).noteAll vs :=
  List.foldl_append

theorem noteAll_finalized (r : Replica) (ms : List Message) :
    r.noteAll (ms.map .messageFinalized) = { r with messages := putMessages ms r.messages } := by
  induction ms generalizing r with
  | nil => rfl
  | cons m ms ih => exact ih _

theorem noteAll_ticks (r : Replica) {us : List Update} (h : ∀ u ∈ us, u.isTick = true) :
    r.noteAll us = r := by
  induction us with
  | nil => rfl
  | cons u us ih =>
    have hu := h u List.mem_cons_self
    cases u with
    | usageTick turn session => exact ih fun u hu => h u (List.mem_cons_of_mem _ hu)
    | _ => exact absurd hu Bool.noConfusion

end Replica

namespace Effect

theorem updates_append (as bs : List Effect) : updates (as ++ bs) = updates as ++ updates bs :=
  List.filterMap_append

theorem updates_tellings (us : List Update) : updates (tellings us) = us := by
  rw [updates, tellings, List.filterMap_map]
  exact List.filterMap_some

theorem updates_cons_opened (generation : Nat) (request : Request) (es : List Effect) :
    updates (.opened generation request :: es) = updates es := rfl

theorem updates_cons_cancelled (generation : Nat) (es : List Effect) :
    updates (.cancelled generation :: es) = updates es := rfl

theorem updates_stops (conversationId : String) (runIds : List String) :
    updates (runIds.map (.stopRequested conversationId)) = [] := by
  rw [updates, List.filterMap_map, List.filterMap_eq_nil_iff]
  exact fun _ _ => rfl

end Effect

/-- What is noted is what can be seen of a session, except that the usage of the message in
    progress may be older. The session has its identifiers from a supply. -/
structure Replica.Mirrors (r : Replica) (supply : Ids) (s : Session) : Prop where
  phase : r.phase = s.phase
  queue : r.queue = s.queue.entries
  progress : r.progress = s.approvals.progress
  tracked : Tracked r.messages s.ids s.transcript
  supply : supply.IsPrefixOf s.ids

namespace Session

open Effect Replica Transcript

variable {s s' : Session} {supply : Ids}

/-- What a watcher has noted that was there from the start. -/
def watched (s : Session) : Replica :=
  noteAll {} (updates s.outbox)

/-- The updates so far tell what can be seen. -/
def Mirrored (supply : Ids) (s : Session) : Prop :=
  s.watched.Mirrors supply s

theorem watched_of_outbox {es : List Effect} (ho : s'.outbox = s.outbox ++ es) :
    s'.watched = s.watched.noteAll (updates es) := by
  rw [watched, ho, updates_append, noteAll_append, watched]

theorem watched_of_tellings (us : List Update) (ho : s'.outbox = s.outbox ++ tellings us) :
    s'.watched = s.watched.noteAll us := by
  rw [watched_of_outbox ho, updates_tellings]

/-- What is mirrored depends on what is told and what can be seen alone. -/
theorem Mirrored.congr (h : s.Mirrored supply) (s' : Session) (ho : s'.watched = s.watched)
    (hp : s'.phase = s.phase) (hq : s'.queue.entries = s.queue.entries)
    (ha : s'.approvals = s.approvals) (hi : s'.ids = s.ids) (hx : s'.transcript = s.transcript) :
    s'.Mirrored supply where
  phase := by rw [ho, hp, h.phase]
  queue := by rw [ho, hq, h.queue]
  progress := by rw [ho, ha, h.progress]
  tracked := by rw [ho, hi, hx]; exact h.tracked
  supply := by rw [hi]; exact h.supply

/-! ## Phases, the queue and bulk decisions -/

theorem noteAll_phaseUpdates {r : Replica} {p : Phase} (h : r.phase = p) (new : Phase) :
    r.noteAll (phaseUpdates p new) = { r with phase := new } := by
  subst h
  rw [phaseUpdates]
  split
  · next h => rw [← h]; rfl
  · rfl

theorem Mirrored.setPhase (h : s.Mirrored supply) (p : Phase) :
    (s.setPhase p).Mirrored supply := by
  have hw : (s.setPhase p).watched = { s.watched with phase := p } := by
    rw [watched_of_tellings (phaseUpdates s.phase p) (by rw [setPhase_eq]),
      noteAll_phaseUpdates h.phase]
  rw [Mirrored, hw, setPhase_eq]
  exact { h with phase := rfl }

theorem Mirrored.withQueue (h : s.Mirrored supply) (q : InputQueue) :
    (s.withQueue q).Mirrored supply := by
  rw [Mirrored, watched_of_tellings [.queueChanged q.entries] rfl]
  exact { h with queue := rfl }

theorem Mirrored.releaseImmediate (h : s.Mirrored supply) : s.releaseImmediate.Mirrored supply :=
  h.congr _ rfl rfl rfl rfl rfl rfl

theorem Mirrored.withQueued (h : s.Mirrored supply) (content : String) :
    (s.withQueued content).Mirrored supply := by
  have hi := s.ids.isPrefixOf_advance
  have ha : Mirrored supply { s with ids := s.ids.advance } :=
    { h with tracked := h.tracked.of_isPrefixOf hi, supply := h.supply.trans hi }
  exact ha.withQueue _

theorem noteAll_abortUpdates {r : Replica} (h : r.progress = s.approvals.progress) :
    r.noteAll s.abortUpdates = { r with progress := none } := by
  obtain ⟨phase, queue, progress, messages⟩ := r
  rw [abortUpdates, Coordinator.isDraining, ← h]
  cases progress <;> rfl

theorem noteAll_bulkUpdates {r : Replica} {c : Coordinator} (h : r.progress = c.progress) :
    r.noteAll c.complete.1.updates = { r with progress := c.complete.2.progress } := by
  obtain ⟨phase, queue, progress, messages⟩ := r
  obtain ⟨waiting, running⟩ := c
  obtain rfl : progress = running := h
  cases progress with
  | none => rfl
  | some p => cases waiting <;> rfl

/-! ## Ending a stream -/

theorem noteAll_finalUpdates (r : Replica) (s : Session) (base : Usage) :
    r.noteAll (s.finalUpdates base) = { r with
      messages := putMessages
        (s.transcript.finalize (some (Usage.combine base s.usage))).1.toList r.messages } := by
  rw [finalUpdates, noteAll_append, noteAll_finalized]
  rfl

/-- The message of the stream is told, and what becomes of a bulk decision. -/
theorem Mirrored.ended (h : s.Mirrored supply) (hl : s.transcript.Lasting) (turn : ActiveTurn)
    (usage : Usage) {approvals : Coordinator} {us : List Update}
    (hu : ∀ r : Replica, r.progress = s.approvals.progress →
      r.noteAll us = { r with progress := approvals.progress }) :
    (s.ended turn usage approvals us).Mirrored supply := by
  have hw : (s.ended turn usage approvals us).watched = { s.watched with
      progress := approvals.progress
      messages := putMessages
        (s.transcript.finalize (some (turn.baseUsage.combine usage))).1.toList
        s.watched.messages } := by
    rw [watched_of_tellings _ rfl, noteAll_append, noteAll_finalUpdates]
    exact hu _ h.progress
  rw [Mirrored, hw]
  exact { h with progress := rfl, tracked := h.tracked.finalize hl _ }

/-- A bulk decision is given up with its stream. -/
theorem Mirrored.aborted (h : s.Mirrored supply) (hl : s.transcript.Lasting) (turn : ActiveTurn) :
    (s.ended turn s.usage {} s.abortUpdates).Mirrored supply :=
  h.ended hl turn s.usage fun _ hr => noteAll_abortUpdates hr

/-- An interrupted stream ends as one that fails does, as far as can be seen. -/
theorem Mirrored.interrupt (h : s.Mirrored supply) (hl : s.transcript.Lasting) :
    s.interrupt.Mirrored supply := by
  cases ht : s.turn with
  | none =>
    rw [interrupt_of_noTurn ht]
    exact h
  | some turn =>
    have he := h.aborted hl turn
    have ho : s.interrupt.outbox = s.outbox ++ _ := congrArg Session.outbox (interrupt_eq ht)
    have hw : s.interrupt.watched = (s.ended turn s.usage {} s.abortUpdates).watched := by
      rw [watched_of_outbox ho, updates_cons_cancelled, updates_append, updates_stops,
        updates_tellings, List.nil_append, interruptUpdates, noteAll_append]
      exact (watched_of_tellings _ rfl).symm
    refine he.congr _ hw ?_ ?_ ?_ ?_ ?_
    all_goals
      rw [interrupt_eq ht]
      rfl

/-! ## Opening a stream -/

/-- Opening a stream tells the message that is continued, and the phase. -/
theorem watched_openStream (h : s.watched.phase = s.phase) (kind : TurnKind) (request : Request)
    (resumed : Option Message) :
    (s.openStream kind request resumed).watched = { s.watched with
      phase := s.servingPhase
      messages := putMessages (resumed.toList.map fun m => { m with streaming := true })
        s.watched.messages } := by
  have ho : (s.openStream kind request resumed).outbox = s.outbox ++ _ :=
    congrArg Session.outbox (s.openStream_eq kind request resumed)
  rw [watched_of_outbox ho, updates_append, updates_tellings, updates_cons_opened,
    updates_tellings, noteAll_append]
  cases resumed with
  | none => exact noteAll_phaseUpdates h _
  | some m =>
    exact noteAll_phaseUpdates
      (r := s.watched.note (.messageUpdated { m with streaming := true })) h _

theorem Mirrored.withInput (h : s.Mirrored supply) (hp : s.transcript.inProgress = none)
    (content : String) : (s.withInput content).Mirrored supply := by
  rw [Mirrored, watched_of_tellings [.messageFinalized (s.inputMessage content)] rfl]
  exact { h with
    tracked := h.tracked.push hp rfl rfl
    supply := h.supply.trans s.ids.isPrefixOf_advance }

theorem Mirrored.beginTurn (h : s.Mirrored supply) (hp : s.transcript.inProgress = none)
    (content : String) : (s.beginTurn content).Mirrored supply := by
  have hi := h.withInput hp content
  rw [beginTurn_eq, Mirrored, watched_openStream hi.phase, openStream_eq]
  exact { hi with phase := rfl }

/-- The message that is continued is the last one again. -/
theorem Mirrored.beginContinuation (h : s.Mirrored supply) (hp : s.transcript.inProgress = none)
    (callId : String) (decision : Decision) (reason : Option String) :
    (s.beginContinuation callId decision reason).Mirrored supply := by
  have hw := watched_openStream (s := s.withoutResumed) h.phase .approvalContinuation
    (s.decisionRequest callId decision reason) s.transcript.takeLastAssistant.1
  rw [beginContinuation_eq, Mirrored, hw, openStream_eq]
  refine { h with phase := rfl, tracked := ?_ }
  -- Either nothing is taken back, or the message that is goes on in its place.
  simp only [withoutResumed, resumedTranscript]
  rcases s.transcript.takeLastAssistant_cases with ⟨ht, _⟩ | ⟨before, m, hf, _, ht⟩
  · rw [ht]
    exact h.tracked
  · rw [ht]
    exact h.tracked.resume hp hf _

theorem Mirrored.drainQueue (h : s.Mirrored supply)
    (hp : s.turn = none → s.transcript.inProgress = none) : s.drainQueue.Mirrored supply := by
  rcases s.drainQueue_cases with ⟨hd, _⟩ | ⟨entry, rest, hc, _, hd⟩
  · rw [hd]
    exact h
  · rw [hd]
    exact (h.withQueue { s.queue with entries := rest }).beginTurn (hp hc.noTurn) _

theorem Mirrored.settle (h : s.Mirrored supply) (hp : s.transcript.inProgress = none)
    (outcome : Outcome) : (s.settle outcome).Mirrored supply := by
  have hw : (s.rested outcome).watched = { s.watched with phase := .idle } := by
    rw [watched_of_tellings _ rfl]
    exact noteAll_phaseUpdates h.phase .idle
  have hr : (s.rested outcome).Mirrored supply := by
    rw [Mirrored, hw]
    exact { h with phase := rfl }
  rw [settle_eq]
  exact hr.drainQueue fun _ => hp

theorem Mirrored.complete (h : s.Mirrored supply) (hl : s.transcript.Lasting) {turn : ActiveTurn}
    (ht : s.turn = some turn) (time : Option Count) : (s.complete time).Mirrored supply := by
  have hc : (s.completed turn time).Mirrored supply :=
    h.ended hl turn _ fun r hr => noteAll_bulkUpdates hr
  have hp : (s.completed turn time).transcript.inProgress = none := inProgress_finalize _ _
  rw [complete_eq ht]
  cases s.approvals.complete.1 with
  | next callId decision progress => exact hc.beginContinuation hp callId decision none
  | finished progress => exact hc.releaseImmediate.settle hp _
  | idle => exact hc.releaseImmediate.settle hp _

theorem Mirrored.fail (h : s.Mirrored supply) (hl : s.transcript.Lasting) {turn : ActiveTurn}
    (ht : s.turn = some turn) (message : String) : (s.fail message).Mirrored supply := by
  have he := h.aborted hl turn
  have hf : (s.failed turn message).Mirrored supply := he.congr _ rfl rfl rfl rfl rfl rfl
  rw [fail_eq ht]
  exact hf.settle (inProgress_finalize _ _) _

/-! ## Every input -/

theorem Mirrored.abortApprovals (h : s.Mirrored supply) : s.abortApprovals.Mirrored supply := by
  have hw : s.abortApprovals.watched = { s.watched with progress := none } := by
    rw [watched_of_tellings s.abortUpdates (by rw [abortApprovals_eq])]
    exact noteAll_abortUpdates h.progress
  rw [Mirrored, hw, abortApprovals_eq]
  exact { h with progress := rfl }

theorem Mirrored.bulkBegun (h : s.Mirrored supply) (hl : s.transcript.Lasting)
    (rest : List String) (progress : Progress) : (s.bulkBegun rest progress).Mirrored supply := by
  have hi := h.interrupt hl
  rw [Mirrored, Session.bulkBegun,
    watched_of_tellings (s := s.interrupt) [.approvalProgress (some progress)] rfl]
  exact { hi with progress := rfl }

/-- Stored messages are told in order. Their identifiers tell them apart. -/
theorem Mirrored.hydrated (h : s.Mirrored supply) (hc : s.canHydrate = true)
    {messages : List Message} (hd : supply.Distinguishes messages) :
    (s.hydrated messages).Mirrored supply := by
  -- Nothing is known yet, since there is no message yet.
  have hx : s.transcript = {} := ((s.canHydrate_iff).1 hc).2.2
  have hk : s.watched.messages = [] := by
    rw [h.tracked.known_of_none (by rw [hx]), hx]
  have hids : (messages.map Message.settled).map (·.id) = messages.map (·.id) := List.map_map
  have hw : (s.hydrated messages).watched =
      { s.watched with messages := messages.map .settled } := by
    rw [watched_of_tellings _ rfl, noteAll_finalized, hk,
      putMessages_of_nodup (by rw [List.nil_append, hids]; exact hd.nodup), List.nil_append]
  rw [Mirrored, hw]
  refine { h with
    tracked := Tracked.of_finalized (hids ▸ hd.nodup) (fun m hm k _ => ?_) h.tracked.fresh }
  obtain ⟨m', hm', rfl⟩ := List.mem_map.1 hm
  have hk : s.ids.name k = supply.name k := congrFun h.supply.name k
  exact fun he => hd.ne m' hm' k (hk.symm.trans he)

/-- What an event writes is told, except for an account that is noted. -/
theorem Mirrored.writes (h : s.Mirrored supply) (hw : s.Writes s') (hc : s.Continues s') :
    s'.Mirrored supply := by
  -- What a stream does not write to is as it was.
  have known {known : List Message} (hk : s'.watched = { s.watched with messages := known })
      (ht : Tracked known s'.ids s'.transcript) : s'.Mirrored supply := by
    rw [Mirrored, hk]
    exact ⟨h.phase.trans hc.phase.symm, by rw [hc.queue]; exact h.queue,
      by rw [hc.approvals]; exact h.progress, ht, h.supply.trans hc.ids⟩
  cases hw with
  | nothing hx ho =>
    refine known (by rw [watched, ho, watched]) ?_
    rw [hx]
    exact h.tracked.of_isPrefixOf hc.ids
  | notes hx ht ho =>
    refine known (by rw [watched_of_tellings _ ho, noteAll_ticks _ ht]) ?_
    rw [hx]
    exact (h.tracked.noted _).of_isPrefixOf hc.ids
  | goesOn hp hm _ hx ho =>
    refine known (watched_of_tellings _ ho) ?_
    rw [hx]
    exact (h.tracked.setCurrent hp hm.id).of_isPrefixOf hc.ids
  | @begins m hp hm _ hi hx ho =>
    refine known (watched_of_tellings _ ho) ?_
    rw [hx]
    exact h.tracked.begins (p := ⟨s.generation, m, false⟩) hp hm.id hi

end Session

/-- The messages that an input loads, if its reply says that they were taken. -/
def Input.loaded : Input → Option (Except Error Reply) → List Message
  | .command (.hydrate messages), some (.ok (.flag true)) => messages
  | _, _ => []

/-- The messages that a transition loads. -/
def Transition.loaded (t : Transition) : List Message :=
  t.input.loaded t.reply

namespace Session

open Effect Replica Transcript

variable {s s' : Session} {supply : Ids}

/-- Every way of taking an input tells what changes. -/
theorem Mirrored.reaction (h : s.Mirrored supply) (hc : s.Coherent) (hl : s.transcript.Lasting)
    {i : Input} {r : Option (Except Error Reply)} (hr : s.Reaction i r s')
    (hd : supply.Distinguishes (i.loaded r)) : s'.Mirrored supply := by
  have hi := h.interrupt hl
  have hq : s.interrupt.transcript.inProgress = none := hc.interrupt.1.inProgress
  cases hr with
  | refuses _ => exact h
  | ignores _ => exact h
  | waits => exact h.congr _ rfl rfl rfl rfl rfl rfl
  | writes _ he => exact h.writes (writes_apply hc.belongsTo he) (continues_apply s he)
  | completes hl' =>
    obtain ⟨_, turn, ht⟩ := (s.isLive_iff _).1 hl'
    exact h.complete hl ht _
  | fails hl' =>
    obtain ⟨_, turn, ht⟩ := (s.isLive_iff _).1 hl'
    exact h.fail hl ht _
  | starts _ hp _ => exact h.beginTurn (hc.quiet (hc.idle_iff.1 hp)).inProgress _
  | @queues content _ _ =>
    exact (h.withQueued content).drainQueue fun ht => (hc.quiet ht).inProgress
  | restarts _ => exact hi.releaseImmediate.beginTurn hq _
  | @pulls _ _ before after _ _ _ _ =>
    -- The queue is told first, in a session that is still coherent.
    have hw := hc.congr (s.withQueue ⟨before ++ after, true⟩) rfl rfl rfl rfl rfl
    have hi := (h.withQueue ⟨before ++ after, true⟩).interrupt hl
    exact hi.beginTurn hw.interrupt.1.inProgress _
  | removes _ _ _ => exact h.withQueue _
  | restsOn _ => exact h.releaseImmediate.abortApprovals
  | cancels ht =>
    -- The phase is told before the stream is given up, and again after.
    obtain ⟨turn, ht⟩ := Option.ne_none_iff_exists'.1 ht
    have hx : (s.releaseImmediate.setPhase .cancelling).transcript.Lasting := by
      rw [transcript_setPhase]
      exact hl
    refine (((h.releaseImmediate.setPhase .cancelling).interrupt hx).setPhase .idle).drainQueue
      fun _ => ?_
    rw [transcript_setPhase]
    exact (quiet_cancelled ht hc.marked).1.inProgress
  | decides _ => exact hi.beginContinuation hq _ _ _
  | @decidesAll decision _ rest _ _ => exact (h.bulkBegun hl rest _).beginContinuation hq _ _ _
  | hydrates hh => exact h.hydrated hh hd
  | shutsDown => exact hi.setPhase .idle

theorem mirrored_start (conversationId : String) (interval now : Nat) {ids : Ids}
    (hf : ids.IsFresh) : (start conversationId interval now ids).Mirrored ids where
  phase := rfl
  queue := rfl
  progress := rfl
  tracked := Tracked.of_finalized List.nodup_nil (fun _ hm => absurd hm List.not_mem_nil) hf
  supply := .refl ids

/-- Every session is mirrored by what was told, if identifiers tell messages apart. -/
theorem mirrored_run (conversationId : String) (interval now : Nat) {ids : Ids}
    (hf : ids.IsFresh) (inputs : List Input)
    (hd : ids.Distinguishes
      (((start conversationId interval now ids).history inputs).flatMap Transition.loaded)) :
    ((start conversationId interval now ids).run inputs).Mirrored ids := by
  -- The messages loaded so far are distinguished too.
  refine (history_induction (P := fun past s => (s.Coherent ∧ s.transcript.Lasting) ∧
    (ids.Distinguishes (past.flatMap Transition.loaded) → s.Mirrored ids)) ⟨⟨?_, ?_⟩, fun _ => ?_⟩
    fun past s i _ hs => ⟨⟨?_, ?_⟩, fun hd => ?_⟩).2 hd
  · exact coherent_start conversationId interval now ids
  · exact lasting_of_none rfl
  · exact mirrored_start conversationId interval now hf
  · exact hs.1.1.react i
  · exact (hs.1.1.carries hs.1.2 (s.reaction i)).lasting
  · have he : (past ++ [s.transition i]).flatMap Transition.loaded =
        past.flatMap Transition.loaded ++ i.loaded (s.react i).1 := by
      rw [List.flatMap_append, List.flatMap_singleton]
      rfl
    obtain ⟨hd, hi⟩ := Ids.Distinguishes.of_append (he ▸ hd)
    exact (hs.2 hd).reaction hs.1.1 hs.1.2 (s.reaction i) hi

/-- Only the message in progress is streaming, so only its account may be older. -/
theorem messages_noted {t : Transcript} (h : t.Marked) (usage : Option Usage) :
    (t.noted usage).messages =
      t.messages.map fun m => if m.streaming then { m with usage } else m := by
  have hf : t.finalized.map (fun m => if m.streaming then { m with usage } else m) =
      t.finalized := by
    refine (List.map_congr_left fun m hm => ?_).trans (List.map_id _)
    rw [h.finalized m hm]
    rfl
  cases hp : t.inProgress with
  | none => rw [noted_of_none hp, messages_of_none hp, hf]
  | some p =>
    rw [noted_of_some hp, setCurrent_of_some hp, messages_of_some hp, messages_of_some rfl,
      List.map_append, hf, List.map_singleton, if_pos (h.inProgress p hp)]

/-- Whatever the inputs, a watcher that noted every update from the start can tell what can
    be seen: the phase, the queue, the bulk decision, and the messages in order, except
    that the usage of the one still streaming may be older. Identifiers must be fresh, and
    those of loaded messages must be others, all different. -/
theorem updates_rebuild_snapshot (conversationId : String) (interval now : Nat) {ids : Ids}
    (hf : ids.IsFresh) (inputs : List Input)
    (hd : ids.Distinguishes
      (((start conversationId interval now ids).history inputs).flatMap Transition.loaded)) :
    let s := (start conversationId interval now ids).run inputs
    let r := Replica.noteAll {} (updates s.outbox)
    r.phase = s.snapshot.phase ∧ r.queue = s.snapshot.queue ∧
      r.progress = s.snapshot.approvalProgress ∧
      ∃ usage, r.messages =
        s.snapshot.messages.map fun m => if m.streaming then { m with usage } else m := by
  intro s r
  have h : s.Mirrored ids := mirrored_run conversationId interval now hf inputs hd
  have hm : s.transcript.Marked := (lasting_run conversationId interval now ids inputs).1.marked
  obtain ⟨usage, hu⟩ := h.tracked.shown
  exact ⟨h.phase, h.queue, h.progress, usage, hu.trans (messages_noted hm usage)⟩

/-- A loaded answer goes on, and more input waits. -/
theorem updates_rebuild_snapshot_resumed :
    let ids : Ids := ⟨fun n => String.ofList (List.replicate n 'i'), 0⟩
    let answer := { Message.beginAssistant "a" 0 with
      segments := [.ofExecution { ToolExecution.bare "t" .pending with requiresApproval := true }] }
    let inputs : List Input := [.command (.hydrate [.ofUser "u" "hello" 0, answer]),
      .command (.decideBulk .approve), .event ⟨1, .token "x"⟩, .command (.submit "next")]
    let s := (start "c" 100 0 ids).run inputs
    let r := Replica.noteAll {} (updates s.outbox)
    ids.IsFresh ∧
      ids.Distinguishes (((start "c" 100 0 ids).history inputs).flatMap Transition.loaded) ∧
      r.phase = .drainingApprovals ∧ r.queue = s.snapshot.queue ∧
      ∃ usage, r.messages =
        s.snapshot.messages.map fun m => if m.streaming then { m with usage } else m := by
  intro ids answer inputs s r
  have hf : ids.IsFresh := by
    intro i j h
    have hl := congrArg String.length h
    simpa [ids, String.length_ofList] using hl
  have hd : ids.Distinguishes
      (((start "c" 100 0 ids).history inputs).flatMap Transition.loaded) := by
    have hl : ((start "c" 100 0 ids).history inputs).flatMap Transition.loaded =
        [.ofUser "u" "hello" 0, answer] := by decide
    rw [hl]
    refine ⟨by decide, fun m hm k he => ?_⟩
    -- An identifier that is handed out has no character but one.
    have hi : ∀ x ∈ m.id.toList, x = 'i' := by
      rw [← he]
      exact fun x hx => List.eq_of_mem_replicate (String.toList_ofList ▸ hx)
    simp only [List.mem_cons, List.not_mem_nil, or_false] at hm
    rcases hm with rfl | rfl
    · exact absurd (hi 'u' (by decide)) (by decide)
    · exact absurd (hi 'a' (by decide)) (by decide)
  obtain ⟨hp, hq, _, hm⟩ := updates_rebuild_snapshot "c" 100 0 hf inputs hd
  exact ⟨hf, hd, hp.trans (by decide), hq, hm⟩

end Session

end Dialogue
