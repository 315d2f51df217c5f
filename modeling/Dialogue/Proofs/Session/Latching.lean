import Dialogue.Proofs.Session.Draining
import Dialogue.Proofs.Session.Renewing

/-!
# Who holds the latch of the queue

Input that is sent at once takes the latch of the queue, and no other is sent at once while
the latch is held. The stream opened for it holds the latch (`Session.Latched`), and hands it
on to a continuation that is opened in its place. The latch is free again when a stream that
holds it ends or is interrupted, and no continuation goes on from it.

* `Latches`: what an operation does to the latch and the stream of the turn at once, one case
  for each way of going on (`passes_of_reaction`);
* `latched_run`: so the latch is held exactly while the stream of the turn holds it;
* `sent_at_once_unless_latched`: what becomes of input that is to be sent at once;
* `latch_outlives_stream`: a decision keeps the latch, although the stream that took it is
  given up.
-/

namespace Dialogue

/-- Whether a transition sends queued input at once. -/
def Transition.sendsNow (t : Transition) : Bool :=
  match t.input, t.reply with
  | .command (.submitNow _), some (.ok _) => true
  | _, _ => false

namespace Session

open Effect

/-- In a history the stream of a generation was opened for input that was sent at once. -/
def SentNow (h : List Transition) (generation : Nat) : Prop :=
  ∃ t ∈ h, t.sendsNow = true ∧ generation ∈ (openings t.effects).map (·.1)

/-- After a history the stream of a generation holds the latch, if it is open: it was opened
    for input that was sent at once, or it is a continuation in the place of a stream that
    held the latch. -/
inductive Latched : List Transition → Nat → Prop
  | sent {h : List Transition} {t : Transition} {generation : Nat} : t.sendsNow = true →
      generation ∈ (openings t.effects).map (·.1) → Latched (h ++ [t]) generation
  | handedOn {h : List Transition} {t : Transition} {turn : ActiveTurn} {generation : Nat}
      {request : Request} : t.before.turn = some turn → Latched h turn.generation →
      (generation, request) ∈ openings t.effects → request.isContinuation = true →
      Latched (h ++ [t]) generation
  | later {h : List Transition} {t : Transition} {generation : Nat} :
      Latched h generation → Latched (h ++ [t]) generation

instance (h : List Transition) (generation : Nat) : Decidable (SentNow h generation) :=
  inferInstanceAs (Decidable (∃ t ∈ h, _ ∧ _))

variable {s s' s'' : Session} {h : List Transition} {t : Transition} {g : Nat} {i : Input}
  {now : Bool}

theorem not_latched_nil : ¬Latched [] g := by
  intro hl
  generalize hn : ([] : List Transition) = h at hl
  cases hl <;> exact absurd hn.symm (List.append_ne_nil_of_right_ne_nil _ (List.cons_ne_nil _ _))

/-- What holds the latch after one transition more. -/
theorem latched_concat : Latched (h ++ [t]) g ↔
    (t.sendsNow = true ∧ g ∈ (openings t.effects).map (·.1)) ∨
      (∃ turn request, t.before.turn = some turn ∧ Latched h turn.generation ∧
        (g, request) ∈ openings t.effects ∧ request.isContinuation = true) ∨
      Latched h g := by
  refine ⟨fun hl => ?_, ?_⟩
  · generalize hc : h ++ [t] = l at hl
    cases hl with
    | sent hn hg =>
      obtain ⟨_, ht⟩ := List.append_inj' hc rfl
      obtain rfl := List.singleton_inj.1 ht
      exact .inl ⟨hn, hg⟩
    | handedOn hs hl hg hr =>
      obtain ⟨rfl, ht⟩ := List.append_inj' hc rfl
      obtain rfl := List.singleton_inj.1 ht
      exact .inr (.inl ⟨_, _, hs, hl, hg, hr⟩)
    | later hl =>
      obtain ⟨rfl, _⟩ := List.append_inj' hc rfl
      exact .inr (.inr hl)
  · rintro (⟨hn, hg⟩ | ⟨_, _, hs, hl, hg, hr⟩ | hl)
    · exact .sent hn hg
    · exact .handedOn hs hl hg hr
    · exact .later hl

/-! ## What operations do to the latch -/

/-- From one session to another the stream of the turn stayed, or ended with the latch free,
    or gave way to a turn, which holds the latch if it is so said, or to a continuation, to
    which the latch was handed on. -/
inductive Latches (s s' : Session) (now : Bool) : Prop
  | keeps {as : List Effect} : s.Acts s' as → openings as = [] → s'.generation = s.generation →
      (s'.turn = none ↔ s.turn = none) → s'.queue.immediate = s.queue.immediate → Latches s s' now
  | rests {as : List Effect} : s.Acts s' as → openings as = [] → s.generation ≤ s'.generation →
      s'.turn = none → s'.queue.immediate = false → Latches s s' now
  | begins {as : List Effect} {request : Request} : s.Acts s' as →
      openings as = [(s'.generation, request)] → request.isContinuation = false →
      s.generation < s'.generation → s'.turn ≠ none → s'.queue.immediate = now → Latches s s' now
  | goesOn {as : List Effect} {request : Request} : s.Acts s' as →
      openings as = [(s'.generation, request)] → request.isContinuation = true →
      s.generation < s'.generation → s'.turn ≠ none →
      s'.queue.immediate = s.queue.immediate → now = false → Latches s s' now

/-- Nothing was opened on the way from one session to another. -/
def Unopened (s s' : Session) : Prop :=
  ∃ as, s.Acts s' as ∧ openings as = [] ∧ s.generation ≤ s'.generation

theorem Unopened.trans (h : s.Unopened s') (h' : s'.Unopened s'') : s.Unopened s'' := by
  obtain ⟨as, ha, hn, hg⟩ := h
  obtain ⟨bs, hb, hn', hg'⟩ := h'
  exact ⟨as ++ bs, ha.trans hb, by rw [openings_append, hn, hn']; rfl, Nat.le_trans hg hg'⟩

theorem unopened_of_tellings {us : List Update} (h : s'.outbox = s.outbox ++ tellings us)
    (hg : s'.generation = s.generation) : s.Unopened s' :=
  ⟨[], acts_of_tellings h, rfl, Nat.le_of_eq hg.symm⟩

theorem unopened_of_outbox_eq (h : s'.outbox = s.outbox) (hg : s'.generation = s.generation) :
    s.Unopened s' :=
  ⟨[], acts_of_outbox_eq h, rfl, Nat.le_of_eq hg.symm⟩

theorem unopened_withQueue (s : Session) (q : InputQueue) : s.Unopened (s.withQueue q) :=
  unopened_of_tellings rfl rfl

theorem unopened_releaseImmediate (s : Session) : s.Unopened s.releaseImmediate :=
  unopened_of_outbox_eq rfl rfl

theorem unopened_completed (s : Session) (turn : ActiveTurn) (time : Option Count) :
    s.Unopened (s.completed turn time) :=
  unopened_of_tellings rfl rfl

theorem unopened_failed (s : Session) (turn : ActiveTurn) (message : String) :
    s.Unopened (s.failed turn message) :=
  unopened_of_tellings rfl rfl

theorem unopened_setPhase (s : Session) (p : Phase) : s.Unopened (s.setPhase p) := by
  rw [setPhase_eq]
  exact unopened_of_tellings rfl rfl

theorem unopened_interrupt (s : Session) : s.Unopened s.interrupt :=
  ⟨_, acts_interrupt s, openings_interruptActs s, s.generation_le_interrupt⟩

/-- What only tells keeps the stream and the latch. -/
theorem latches_of_tellings {us : List Update} (h : s'.outbox = s.outbox ++ tellings us)
    (hg : s'.generation = s.generation) (ht : s'.turn = none ↔ s.turn = none)
    (hq : s'.queue.immediate = s.queue.immediate) : s.Latches s' now :=
  .keeps (acts_of_tellings h) rfl hg ht hq

theorem latches_self (s : Session) : s.Latches s now :=
  .keeps (acts_of_outbox_eq rfl) rfl rfl Iff.rfl rfl

/-- A turn begins, and the latch is what it was. -/
theorem Unopened.beginTurn (h : s.Unopened s') (hn : s'.queue.immediate = now)
    (content : String) : s.Latches (s'.beginTurn content) now := by
  obtain ⟨as, ha, ho, hg⟩ := h
  have hgen : (s'.beginTurn content).generation = s'.generation + 1 := by
    rw [beginTurn_eq, openStream_eq]
    rfl
  have hopen : openings (as ++ [.opened (s'.generation + 1) (s'.turnRequest content)]) =
      [((s'.beginTurn content).generation, s'.turnRequest content)] := by
    rw [openings_append, ho, hgen]
    rfl
  refine .begins (ha.trans (acts_beginTurn s' content)) hopen rfl ?_ ?_ ?_
  · rw [hgen]
    exact Nat.lt_succ_of_le hg
  · rw [beginTurn_eq, openStream_eq]
    exact Option.some_ne_none _
  · rw [beginTurn_eq, openStream_eq]
    exact hn

/-- A continuation goes on, and the latch is what it was. -/
theorem Unopened.beginContinuation (h : s.Unopened s')
    (hn : s'.queue.immediate = s.queue.immediate) (callId : String) (decision : Decision)
    (reason : Option String) :
    s.Latches (s'.beginContinuation callId decision reason) false := by
  obtain ⟨as, ha, ho, hg⟩ := h
  have hgen := s'.generation_beginContinuation callId decision reason
  have hopen : openings (as ++
        [.opened (s'.generation + 1) (s'.decisionRequest callId decision reason)]) =
      [((s'.beginContinuation callId decision reason).generation,
        s'.decisionRequest callId decision reason)] := by
    rw [openings_append, ho, hgen]
    rfl
  have hacts := ha.trans (acts_beginContinuation s' callId decision reason)
  refine .goesOn hacts hopen rfl ?_ ?_ ?_ rfl
  · rw [hgen]
    exact Nat.lt_succ_of_le hg
  · rw [beginContinuation_eq, openStream_eq]
    exact Option.some_ne_none _
  · rw [beginContinuation_eq, openStream_eq]
    exact hn

/-- Once the stream is gone and the latch free, queued input may be started. -/
theorem Unopened.drainQueue (h : s.Unopened s') (ht : s'.turn = none)
    (hn : s'.queue.immediate = false) : s.Latches s'.drainQueue false := by
  rcases s'.drainQueue_cases with ⟨hd, _⟩ | ⟨entry, rest, _, _, hd⟩
  · obtain ⟨as, ha, ho, hg⟩ := h
    rw [hd]
    exact .rests ha ho hg ht hn
  · have hr : s'.Unopened (s'.afterHead rest) := unopened_withQueue s' _
    rw [hd]
    exact (h.trans hr).beginTurn hn _

theorem Unopened.settle (h : s.Unopened s') (ht : s'.turn = none)
    (hn : s'.queue.immediate = false) (outcome : Outcome) :
    s.Latches (s'.settle outcome) false := by
  have hr : s'.Unopened (s'.rested outcome) := unopened_of_tellings rfl rfl
  rw [settle_eq]
  exact (h.trans hr).drainQueue ht hn

/-- Input that is queued is started at once only if the session has no turn. -/
theorem latches_withQueued (hn : s.turn = none → s.queue.immediate = false) (content : String) :
    s.Latches (s.withQueued content).drainQueue false := by
  have hq : s.Unopened (s.withQueued content) := unopened_of_tellings rfl rfl
  cases ht : s.turn with
  | none => exact hq.drainQueue ht (hn ht)
  | some turn =>
    have hb : ¬(s.withQueued content).CanDrain := fun hc =>
      Option.some_ne_none turn (ht.symm.trans hc.noTurn)
    rw [drainQueue_of_not_canDrain hb]
    exact latches_of_tellings rfl rfl Iff.rfl rfl

/-- The latch of a stream that completes goes to the next call of a bulk decision, or it is
    given back. -/
theorem latches_complete {turn : ActiveTurn} (ht : s.turn = some turn) (time : Option Count) :
    s.Latches (s.complete time) false := by
  have hc := s.unopened_completed turn time
  have hr : s.Latches ((s.completed turn time).releaseImmediate.settle .completed) false :=
    (hc.trans (unopened_releaseImmediate _)).settle rfl rfl _
  rw [complete_eq ht]
  cases s.approvals.complete.1 with
  | next callId decision progress => exact hc.beginContinuation rfl _ _ _
  | finished progress => exact hr
  | idle => exact hr

theorem latches_fail {turn : ActiveTurn} (ht : s.turn = some turn) (message : String) :
    s.Latches (s.fail message) false := by
  rw [fail_eq ht]
  exact (s.unopened_failed turn message).settle rfl rfl _

/-- Every way of taking an input but shutting down passes the latch on or gives it back. -/
theorem latches_of_reaction (hn : s.turn = none → s.queue.immediate = false)
    (hc : s.Coherent) {r : Option (Except Error Reply)} (hr : s.Reaction i r s')
    (hi : (s.react i).1 = r) (hs : i ≠ .command .shutdown) :
    s.Latches s' (s.transition i).sendsNow := by
  have hint := s.unopened_interrupt
  have hq : s.interrupt.queue.immediate = s.queue.immediate := by rw [queue_interrupt]
  cases hr with
  | refuses _ => exact latches_self s
  | ignores _ => exact latches_self s
  | waits => exact .keeps (acts_of_outbox_eq rfl) rfl rfl Iff.rfl rfl
  | writes _ he =>
    have hw := continues_apply s he
    obtain ⟨runId, ht⟩ := hw.turn
    refine .keeps hw.acts rfl hw.generation ?_ (by rw [hw.queue])
    rw [ht, Option.map_eq_none_iff]
  | completes hl =>
    obtain ⟨_, turn, ht⟩ := (s.isLive_iff _).1 hl
    exact latches_complete ht _
  | fails hl =>
    obtain ⟨_, turn, ht⟩ := (s.isLive_iff _).1 hl
    exact latches_fail ht _
  | starts _ hp _ =>
    have hself : s.Unopened s := unopened_of_outbox_eq rfl rfl
    exact hself.beginTurn (hn (hc.idle_iff.1 hp)) _
  | queues _ _ => exact latches_withQueued hn _
  | restarts _ => exact (hint.trans (unopened_releaseImmediate _)).beginTurn rfl _
  | @pulls id entry before after _ _ _ _ =>
    have hw := s.unopened_withQueue ⟨before ++ after, true⟩
    have hnow : (s.transition (.command (.submitNow id))).sendsNow = true := by
      rw [Transition.sendsNow, transition, hi]
    rw [hnow]
    exact (hw.trans (unopened_interrupt _)).beginTurn (by rw [queue_interrupt]; rfl) _
  | removes _ _ _ => exact latches_of_tellings rfl rfl Iff.rfl rfl
  | restsOn ht =>
    rw [abortApprovals_eq]
    exact .rests (acts_of_tellings rfl) rfl (Nat.le_refl _) ht rfl
  | cancels _ =>
    have hp : s.Unopened (s.releaseImmediate.setPhase .cancelling) :=
      s.unopened_releaseImmediate.trans (unopened_setPhase _ _)
    have hx : s.Unopened (s.cancelled.setPhase .idle) :=
      (hp.trans (unopened_interrupt _)).trans (unopened_setPhase _ _)
    refine hx.drainQueue ?_ ?_
    · rw [setPhase_eq]
      exact turn_interrupt _
    · rw [setPhase_eq]
      show s.cancelled.queue.immediate = false
      rw [cancelled, queue_interrupt, setPhase_eq]
      rfl
  | decides _ => exact hint.beginContinuation hq _ _ _
  | @decidesAll decision _ rest _ _ =>
    have hb : s.interrupt.Unopened (s.bulkBegun rest ⟨0, rest.length + 1, decision⟩) := by
      rw [bulkBegun, tell_eq]
      exact unopened_of_tellings rfl rfl
    exact (hint.trans hb).beginContinuation hq _ _ _
  | hydrates _ => exact latches_of_tellings rfl rfl Iff.rfl rfl
  | shutsDown => exact absurd rfl hs

/-! ## Every run -/

theorem latched_concat_of_nil (ho : openings t.effects = []) :
    Latched (h ++ [t]) g ↔ Latched h g := by
  rw [latched_concat, ho]
  exact ⟨fun hl => hl.elim (fun hg => absurd hg.2 List.not_mem_nil) fun hl => hl.elim
    (fun ⟨_, _, _, _, hg, _⟩ => absurd hg List.not_mem_nil) id, fun hl => .inr (.inr hl)⟩

/-- A stream that is new holds the latch if it is for input sent at once, or if it is a
    continuation and the stream before it held the latch. -/
theorem latched_opened {request : Request} (ho : openings t.effects = [(g, request)])
    (hn : ¬Latched h g) : Latched (h ++ [t]) g ↔ t.sendsNow = true ∨
      request.isContinuation = true ∧ ∃ turn ∈ t.before.turn, Latched h turn.generation := by
  rw [latched_concat, ho]
  refine ⟨?_, ?_⟩
  · rintro (⟨hs, _⟩ | ⟨turn, _, ht, hl, hg, hr⟩ | hl)
    · exact .inl hs
    · obtain ⟨_, rfl⟩ := Prod.mk.inj (List.mem_singleton.1 hg)
      exact .inr ⟨hr, turn, ht, hl⟩
    · exact absurd hl hn
  · rintro (hs | ⟨hr, turn, ht, hl⟩)
    · exact .inl ⟨hs, List.mem_cons_self⟩
    · exact .inr (.inl ⟨turn, request, ht, hl, List.mem_cons_self, hr⟩)

/-- A stream that holds the latch was opened before, or just now. -/
theorem latched_or_opened (hl : Latched (h ++ [t]) g) :
    g ∈ (openings t.effects).map (·.1) ∨ Latched h g := by
  rcases latched_concat.1 hl with ⟨_, hg⟩ | ⟨_, _, _, _, hg, _⟩ | hl
  · exact .inl hg
  · exact .inl (List.mem_map.2 ⟨_, hg, rfl⟩)
  · exact .inr hl

/-- What is known of a session that comes with a history: the latch of its queue is held
    exactly while the stream of the turn holds it. -/
structure Held (h : List Transition) (s : Session) : Prop where
  coherent : s.Coherent
  le : ∀ g, Latched h g → g ≤ s.generation
  latch : s.queue.immediate = true ↔ ∃ turn ∈ s.turn, Latched h turn.generation

theorem held_start (conversationId : String) (interval now : Nat) (ids : Ids) :
    Held [] (start conversationId interval now ids) where
  coherent := coherent_start conversationId interval now ids
  le _ hl := absurd hl not_latched_nil
  latch := ⟨Bool.noConfusion, fun ⟨_, _, hl⟩ => absurd hl not_latched_nil⟩

/-- In terms of the generation, which is that of the stream of the turn. -/
theorem Coherent.latch_iff (hc : s.Coherent) :
    (∃ turn ∈ s.turn, Latched h turn.generation) ↔ s.turn ≠ none ∧ Latched h s.generation := by
  refine ⟨fun ⟨turn, ht, hl⟩ => ⟨?_, hc.generation turn ht ▸ hl⟩, fun ⟨ht, hl⟩ => ?_⟩
  · rw [ht]
    exact Option.some_ne_none turn
  · obtain ⟨turn, ht⟩ := Option.ne_none_iff_exists'.1 ht
    exact ⟨turn, ht, (hc.generation turn ht).symm ▸ hl⟩

theorem Held.free (hs : Held h s) (ht : s.turn = none) : s.queue.immediate = false := by
  rw [Bool.eq_false_iff, ne_eq, hs.latch, ht]
  exact fun ⟨_, hm, _⟩ => absurd hm (Option.not_mem_none _)

theorem Held.react (hs : Held h s) (hi : i ≠ .command .shutdown) :
    Held (h ++ [s.transition i]) (s.react i).2 := by
  have hc := hs.coherent.react i
  have hr := latches_of_reaction hs.free hs.coherent (s.reaction i) rfl hi
  -- The new generation, if there is one, is larger than those that ever held the latch.
  have hfresh (hg : s.generation < (s.react i).2.generation) :
      ¬Latched h (s.react i).2.generation := fun hl =>
    Nat.lt_irrefl _ (Nat.lt_of_lt_of_le hg (hs.le _ hl))
  cases hr with
  | @keeps as ha ho hg ht hq =>
    have ho : openings (s.transition i).effects = [] := ha.openings.trans ho
    refine ⟨hc, fun g hl => ?_, ?_⟩
    · rw [hg]
      exact hs.le g ((latched_concat_of_nil ho).1 hl)
    · rw [hq, hs.latch, hs.coherent.latch_iff, hc.latch_iff, hg, ne_eq, ne_eq, ht,
        latched_concat_of_nil ho]
  | @rests as ha ho hg ht hq =>
    have ho : openings (s.transition i).effects = [] := ha.openings.trans ho
    refine ⟨hc, fun g hl => ?_, ?_⟩
    · exact Nat.le_trans (hs.le g ((latched_concat_of_nil ho).1 hl)) hg
    · rw [hq, hc.latch_iff]
      exact ⟨Bool.noConfusion, fun h => absurd ht h.1⟩
  | @begins as request ha ho hr hg ht hq =>
    have ho : openings (s.transition i).effects = _ := ha.openings.trans ho
    refine ⟨hc, fun g hl => ?_, ?_⟩
    · rcases latched_or_opened hl with hg' | hl
      · rw [ho] at hg'
        exact Nat.le_of_eq (List.mem_singleton.1 hg')
      · exact Nat.le_trans (hs.le g hl) (Nat.le_of_lt hg)
    · rw [hq, hc.latch_iff, latched_opened ho (hfresh hg), hr]
      exact ⟨fun h => ⟨ht, .inl h⟩, fun h => h.2.resolve_right fun h => nomatch h.1⟩
  | @goesOn as request ha ho hr hg ht hq hn =>
    have ho : openings (s.transition i).effects = _ := ha.openings.trans ho
    refine ⟨hc, fun g hl => ?_, ?_⟩
    · rcases latched_or_opened hl with hg' | hl
      · rw [ho] at hg'
        exact Nat.le_of_eq (List.mem_singleton.1 hg')
      · exact Nat.le_trans (hs.le g hl) (Nat.le_of_lt hg)
    · rw [hq, hs.latch, hc.latch_iff, latched_opened ho (hfresh hg), hn]
      exact ⟨fun h => ⟨ht, .inr ⟨hr, h⟩⟩, fun h => (h.2.resolve_left Bool.noConfusion).2⟩

theorem held_run (conversationId : String) (interval now : Nat) (ids : Ids)
    {inputs : List Input} (hi : ∀ i ∈ inputs, i ≠ .command .shutdown) :
    Held ((start conversationId interval now ids).history inputs)
      ((start conversationId interval now ids).run inputs) :=
  history_induction (held_start conversationId interval now ids)
    fun _ _ i hm hs => hs.react (hi i hm)

/-! ## Sending input at once -/

/-- Queued input is sent at once unless the latch is held. -/
theorem submitNow_of_mem {e : QueuedInput} (he : e ∈ s.queue.entries) :
    (s.submitNow e.id).1 = if s.queue.immediate then .error .immediateInFlight else .ok () := by
  rw [submitNow, InputQueue.takeImmediate]
  cases s.queue.immediate with
  | true => rfl
  | false =>
    rw [if_neg Bool.noConfusion]
    cases hr : s.queue.remove? e.id with
    | none => exact absurd rfl (ne_of_remove?_eq_none hr e he)
    | some taken => rfl

theorem SentNow.append (hs : SentNow h g) (later : List Transition) : SentNow (h ++ later) g := by
  obtain ⟨t, ht, hs⟩ := hs
  exact ⟨t, List.mem_append_left _ ht, hs⟩

theorem Latched.append (hl : Latched h g) (later : List Transition) : Latched (h ++ later) g := by
  induction later generalizing h with
  | nil => rwa [List.append_nil]
  | cons t later ih =>
    have hl : Latched (h ++ [t] ++ later) g := ih hl.later
    rwa [List.append_assoc] at hl

/-- A stream that was opened for input sent at once holds the latch. -/
theorem SentNow.latched (hs : SentNow h g) : Latched h g := by
  obtain ⟨t, ht, hn, hg⟩ := hs
  obtain ⟨before, after, rfl⟩ := List.append_of_mem ht
  have hl : Latched (before ++ [t] ++ after) g := (Latched.sent hn hg).append after
  rwa [List.append_assoc] at hl

/-- No other stream does, unless one gave way to a continuation. -/
theorem Latched.sentNow (hl : Latched h g) (hc : ∀ t ∈ h, ∀ turn ∈ t.before.turn,
    SentNow h turn.generation → ∀ o ∈ openings t.effects, o.2.isContinuation = false) :
    SentNow h g := by
  induction hl with
  | sent hn hg => exact ⟨_, List.mem_append_right _ List.mem_cons_self, hn, hg⟩
  | later _ ih =>
    refine (ih fun t ht turn hturn hs => ?_).append _
    exact hc t (List.mem_append_left _ ht) turn hturn (hs.append _)
  | @handedOn h t turn g request ht _ hg hr ih =>
    have hs : SentNow h turn.generation := ih fun t ht turn hturn hs =>
      hc t (List.mem_append_left _ ht) turn hturn (hs.append _)
    have hn := hc t (List.mem_append_right _ List.mem_cons_self) turn ht (hs.append _) _ hg
    exact Bool.noConfusion (hr.symm.trans hn)

/-- Whether queued input can be sent at once depends on the stream of the turn alone, in every
    session that inputs other than shutting down lead to. It is refused exactly if that
    stream holds the latch: the stream was opened for input sent at once, or it is a
    continuation that took the place of one that held the latch. If no continuation took the
    place of a stream that was opened for input sent at once, it is refused exactly if the
    stream of the turn is such a stream itself. Else it is sent. -/
theorem sent_at_once_unless_latched (conversationId : String) (interval now : Nat) (ids : Ids)
    {inputs : List Input} (hi : ∀ i ∈ inputs, i ≠ .command .shutdown) :
    let s := (start conversationId interval now ids).run inputs
    let h := (start conversationId interval now ids).history inputs
    (∀ e ∈ s.queue.entries,
      ((s.submitNow e.id).1 = .error .immediateInFlight ↔
        ∃ turn ∈ s.turn, Latched h turn.generation) ∧
      ((s.submitNow e.id).1 = .ok () ↔ ∀ turn ∈ s.turn, ¬Latched h turn.generation)) ∧
    ((∀ t ∈ h, ∀ turn ∈ t.before.turn, SentNow h turn.generation →
        ∀ o ∈ openings t.effects, o.2.isContinuation = false) →
      ∀ e ∈ s.queue.entries,
        ((s.submitNow e.id).1 = .error .immediateInFlight ↔
          ∃ turn ∈ s.turn, SentNow h turn.generation) ∧
        ((s.submitNow e.id).1 = .ok () ↔ ∀ turn ∈ s.turn, ¬SentNow h turn.generation)) := by
  intro s h
  have hs : Held h s := held_run conversationId interval now ids hi
  have hexact : ∀ e ∈ s.queue.entries,
      ((s.submitNow e.id).1 = .error .immediateInFlight ↔
        ∃ turn ∈ s.turn, Latched h turn.generation) ∧
      ((s.submitNow e.id).1 = .ok () ↔ ∀ turn ∈ s.turn, ¬Latched h turn.generation) := by
    intro e he
    have hn : (∀ turn ∈ s.turn, ¬Latched h turn.generation) ↔ ¬s.queue.immediate = true := by
      rw [hs.latch, not_exists]
      exact forall_congr' fun _ => not_and.symm
    rw [submitNow_of_mem he, hn, ← hs.latch]
    cases s.queue.immediate <;> simp
  refine ⟨hexact, fun hc => ?_⟩
  have hl : ∀ g, Latched h g ↔ SentNow h g := fun g => ⟨fun hl => hl.sentNow hc, SentNow.latched⟩
  simpa only [hl] using hexact

/-- Input sent at once holds back other input, until its stream completes. -/
theorem sent_at_once_unless_latched_completed :
    let inputs : List Input := [.command (.submit "first"), .command (.submit "second"),
      .command (.submit "third"), .command (.submitNow "1"), .command (.submit "fourth"),
      .event ⟨3, .completed none⟩]
    let s := (start "c" 100 0 ⟨toString, 0⟩).run inputs
    let h := (start "c" 100 0 ⟨toString, 0⟩).history inputs
    (∀ i ∈ inputs, i ≠ .command .shutdown) ∧
      (∀ t ∈ h, ∀ turn ∈ t.before.turn, SentNow h turn.generation →
        ∀ o ∈ openings t.effects, o.2.isContinuation = false) ∧
      SentNow h 3 ∧ s.turn.map (·.generation) = some 4 ∧
      s.queue.entries.map (·.id) = ["4"] ∧ (s.submitNow "4").1 = .ok () := by
  intro inputs s h
  have hi : ∀ i ∈ inputs, i ≠ .command .shutdown := by decide
  have hc : ∀ t ∈ h, ∀ turn ∈ t.before.turn, SentNow h turn.generation →
      ∀ o ∈ openings t.effects, o.2.isContinuation = false := by decide
  have he : (⟨"4", "fourth", 0⟩ : QueuedInput) ∈ s.queue.entries := by decide
  refine ⟨hi, hc, by decide, by decide, by decide, ?_⟩
  exact (((sent_at_once_unless_latched "c" 100 0 ⟨toString, 0⟩ hi).2 hc _ he).2).2 (by decide)

/-- The stream for input sent at once is given up for a decision, and nothing that was opened
    for such input is open any more. Still other input is refused. -/
theorem latch_outlives_stream :
    let inputs : List Input := [.command (.submit "first"), .command (.submit "second"),
      .command (.submit "third"), .command (.submitNow "1"),
      .command (.decideSingle "c1" true none)]
    let s := (start "c" 100 0 ⟨toString, 0⟩).run inputs
    let h := (start "c" 100 0 ⟨toString, 0⟩).history inputs
    (∀ i ∈ inputs, i ≠ .command .shutdown) ∧ (∀ turn ∈ s.turn, ¬SentNow h turn.generation) ∧
      ∃ e ∈ s.queue.entries, (s.submitNow e.id).1 = .error .immediateInFlight := by
  decide

end Session

end Dialogue
