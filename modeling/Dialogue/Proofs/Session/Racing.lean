import Dialogue.Proofs.Session.Framing
import Dialogue.Proofs.Session.Waiting
import Mathlib.Logic.Equiv.Defs

/-!
# Input that races with an event

Input may be submitted just before an event comes or just after, and it does not matter
which: the session ends up the same and asks for the same streams
(`Session.Commutes`). What may differ is the reply, what is told of the queue, and which
identifiers are handed out for what, since they are handed out in another order.

* `matches_enqueue`: while the session stays busy the input waits behind all other, whatever
  the event does;
* `matches_settle`: if the event ends the turn, the oldest input starts, which is the new one
  if no other waits;
* `submit_handle_commute`: so the order does not matter, in any session that is not shut
  down, for any event. It only must not be tagged with the generation of a stream that
  the input itself is going to open.
-/

namespace Dialogue

/-! ## Identifiers in another order -/

namespace Ids

/-- The supply with its identifiers in another order. -/
def reorder (ids : Ids) (order : Equiv.Perm Nat) : Ids :=
  { ids with name := ids.name ∘ order }

/-- The order in which what comes at `u` comes so many places later, and all before it
    are one place earlier. -/
def delay (u n : Nat) : Equiv.Perm Nat where
  toFun k := if k = u then u + n else if u < k ∧ k ≤ u + n then k - 1 else k
  invFun k := if k = u + n then u else if u ≤ k ∧ k < u + n then k + 1 else k
  left_inv k := by
    dsimp only
    split_ifs <;> omega
  right_inv k := by
    dsimp only
    split_ifs <;> omega

theorem delay_of_lt {u n k : Nat} (h : k < u) : delay u n k = k := by
  simp only [delay, Equiv.coe_fn_mk]
  rw [if_neg (Nat.ne_of_lt h), if_neg (by omega)]

theorem delay_self (u n : Nat) : delay u n u = u + n :=
  if_pos rfl

theorem delay_add {u n k : Nat} (h : k < n) : delay u n (u + 1 + k) = u + k := by
  simp only [delay, Equiv.coe_fn_mk]
  rw [if_neg (by omega), if_pos (by omega)]
  omega

/-- Once the delayed identifier is handed out early, the others come as they would. -/
theorem agreesFor_delay (ids : Ids) (n : Nat) :
    AgreesFor n (ids.reorder (delay ids.used n)).advance ids := by
  intro k hk
  exact congrArg ids.name (delay_add hk)

end Ids

/-! ## Telling of the queue -/

namespace Effect

/-- Whether an effect is to tell of the queue. -/
def tellsQueue : Effect → Bool
  | .told (.queueChanged _) => true
  | _ => false

/-- What effects do besides telling of the queue. -/
def besidesQueue (es : List Effect) : List Effect :=
  es.filter (!·.tellsQueue)

theorem besidesQueue_append (es fs : List Effect) :
    besidesQueue (es ++ fs) = besidesQueue es ++ besidesQueue fs :=
  List.filter_append es fs

theorem besidesQueue_queueChanged (entries : List QueuedInput) :
    besidesQueue (tellings [.queueChanged entries]) = [] := rfl

/-- Telling of the queue opens nothing. -/
theorem openings_besidesQueue (es : List Effect) : openings (besidesQueue es) = openings es := by
  rw [openings, besidesQueue, List.filterMap_filter, openings]
  congr 1
  funext e
  cases e with
  | told u => cases u <;> rfl
  | _ => rfl

end Effect

namespace Session

open Effect Ids

variable {s a b : Session} {f g : Session → Session} {n : Nat} {es : List Effect}

/-- Two sessions are in the same state, but for the identifiers that are still to come, and
    have asked for the same streams. All that they have done is the same, but for what was
    told of the queue. -/
structure Matches (a b : Session) : Prop where
  state : { a with ids := b.ids, outbox := b.outbox } = b
  openings : openings a.outbox = openings b.outbox
  effects : besidesQueue a.outbox = besidesQueue b.outbox

/-- The session with the identifiers still to come in another order. -/
def reordered (s : Session) (order : Equiv.Perm Nat) : Session :=
  { s with ids := s.ids.reorder order }

/-- It comes to the same whether input is submitted before an event or after it, if the
    identifiers still to come are handed out in the right order. -/
def Commutes (s : Session) (content : String) (e : Envelope) : Prop :=
  ∃ order : Equiv.Perm Nat, (∀ k < s.ids.used, order k = k) ∧
    Matches (((s.reordered order).submit content).2.handle e) ((s.handle e).submit content).2

theorem Matches.refl (s : Session) : s.Matches s :=
  ⟨rfl, rfl, rfl⟩

/-- Sessions match if they differ in their frames alone, with the same input waiting. -/
theorem matches_framed (s : Session) (entries : List QueuedInput) (ids ids' : Ids)
    {outbox outbox' : List Effect} (h : besidesQueue outbox = besidesQueue outbox') :
    Matches (s.framed entries ids outbox) (s.framed entries ids' outbox') := by
  refine ⟨rfl, ?_, h⟩
  have ho := congrArg Effect.openings h
  rwa [openings_besidesQueue, openings_besidesQueue] at ho

/-! ## Input that waits -/

/-- Queued input is in the frame of the session. -/
theorem withQueued_eq_framed (s : Session) (content : String) :
    s.withQueued content = s.framed (s.queue.entries ++ [s.queuedInput content]) s.ids.advance
      (s.outbox ++ tellings [.queueChanged (s.queue.entries ++ [s.queuedInput content])]) := rfl

/-- Queued first, input has the identifier that it would have after so many others. -/
theorem queuedInput_reordered (s : Session) (n : Nat) (content : String) :
    (s.reordered (delay s.ids.used n)).queuedInput content =
      ⟨s.ids.name (s.ids.used + n), content, s.now⟩ :=
  congrArg (QueuedInput.mk · content s.now) (congrArg s.ids.name (delay_self s.ids.used n))

/-- An operation does the same before and after input is queued. -/
theorem matches_enqueue (hf : Frames f s n es) (content : String) :
    Matches (f ((s.reordered (delay s.ids.used n)).withQueued content))
      ((f s).withQueued content) := by
  have hi : (s.reordered (delay s.ids.used n)).queuedInput content =
      (f s).queuedInput content := by
    rw [queuedInput_reordered, queuedInput, hf.ids, hf.now]
    rfl
  have ha := s.ids.agreesFor_delay n
  rw [withQueued_eq_framed, withQueued_eq_framed, hi, hf.entries, hf.outbox]
  have hl := hf.framed (s.queue.entries ++ [(f s).queuedInput content]) _ (s.outbox ++
    tellings [.queueChanged (s.queue.entries ++ [(f s).queuedInput content])]) ha
  refine hl.symm ▸ matches_framed (f s) _ _ _ ?_
  simp only [besidesQueue_append, besidesQueue_queueChanged, List.append_nil]

/-! ## Input that starts -/

/-- Draining the queue in some frame starts the oldest input of that frame. -/
theorem drainQueue_framed (hc : s.CanDrain) (entry : QueuedInput) (rest : List QueuedInput)
    (ids : Ids) (outbox : List Effect) :
    (s.framed (entry :: rest) ids outbox).drainQueue =
      (s.framed rest ids (outbox ++ tellings [.queueChanged rest])).beginTurn entry.content :=
  drainQueue_of_canDrain (s := s.framed (entry :: rest) ids outbox) ⟨hc.idle, hc.noTurn, hc.free⟩

/-- Draining the queue starts the oldest input, be it the new one or not. If that comes
    first, its identifier is the one after that of the input that starts. -/
theorem matches_drainQueue (hc : s.CanDrain) {content : String}
    (hb : Text.isBlank content = false) {ids : Ids} (ha : ids.AgreesFor 1 s.ids)
    {outbox : List Effect} (ho : besidesQueue outbox = besidesQueue s.outbox) :
    Matches
      (s.framed (s.queue.entries ++ [⟨s.ids.name (s.ids.used + 1), content, s.now⟩])
        ids outbox).drainQueue
      (s.drainQueue.submit content).2 := by
  have hd := drainQueue_of_canDrain hc
  cases hq : s.queue.entries with
  | nil =>
    -- The new input starts.
    obtain ⟨es, ht⟩ := frames_beginTurn s content
    have hr : s.beginTurn content = (s.beginTurn content).framed [] _ _ := hq ▸ ht.eq_framed
    rw [hq] at hd
    rw [List.nil_append, drainQueue_framed hc, ht.framed [] ids _ ha, hd,
      submit_started hb hc.idle hq, hr]
    refine matches_framed (s.beginTurn content) [] _ _ ?_
    simp only [besidesQueue_append, besidesQueue_queueChanged, List.append_nil, ho]
  | cons entry rest =>
    -- Other input starts, and the new one waits.
    obtain ⟨es, ht⟩ := frames_beginTurn s entry.content
    have hr : s.drainQueue = (s.beginTurn entry.content).framed rest (s.ids.skip 1)
        (s.outbox ++ tellings [.queueChanged rest] ++ es) := by
      rw [hd, hq]
      exact ht.framed rest s.ids _ (.refl 1 s.ids)
    have hp : s.drainQueue.phase ≠ .idle := by
      rw [hr]
      exact phase_openStream_ne (s.withInput entry.content) _ _ none
    have hi : s.drainQueue.queuedInput content =
        ⟨s.ids.name (s.ids.used + 1), content, s.now⟩ := by
      rw [hr]
      exact congrArg (QueuedInput.mk _ content) (congrArg Int.ofNat ht.now)
    rw [submit_queued hb (.inl hp), drainQueue_withQueued hp, withQueued_eq_framed, hi, hr,
      List.cons_append, drainQueue_framed hc, ht.framed _ ids _ ha]
    refine matches_framed (s.beginTurn entry.content) _ _ _ ?_
    simp only [framed, besidesQueue_append, besidesQueue_queueChanged, List.append_nil, ho]

/-- So does an operation that ends with draining the queue. -/
theorem matches_settle (hg : Frames g s 0 es) (hc : (g s).CanDrain) {content : String}
    (hb : Text.isBlank content = false) :
    Matches (g ((s.reordered (delay s.ids.used 1)).withQueued content)).drainQueue
      ((g s).drainQueue.submit content).2 := by
  have hids : (g s).ids = s.ids := hg.ids
  have hi : (s.reordered (delay s.ids.used 1)).queuedInput content =
      ⟨(g s).ids.name ((g s).ids.used + 1), content, (g s).now⟩ := by
    rw [queuedInput_reordered, hids, hg.now]
  have ha : AgreesFor 1 (s.ids.reorder (delay s.ids.used 1)).advance (g s).ids :=
    hids ▸ s.ids.agreesFor_delay 1
  have hl := hg.framed (s.queue.entries ++
      [⟨(g s).ids.name ((g s).ids.used + 1), content, (g s).now⟩])
    (s.ids.reorder (delay s.ids.used 1)).advance (s.outbox ++ tellings [.queueChanged
      (s.queue.entries ++ [⟨(g s).ids.name ((g s).ids.used + 1), content, (g s).now⟩])])
    fun _ hk => absurd hk (Nat.not_lt_zero _)
  rw [withQueued_eq_framed, hi]
  refine hl.symm ▸ ?_
  rw [← hg.entries]
  refine matches_drainQueue hc hb ha ?_
  simp only [hg.outbox, besidesQueue_append, besidesQueue_queueChanged, List.append_nil]

/-! ## Every event -/

/-- Input that is submitted to a busy session waits. -/
theorem submit_busy (h : s.phase ≠ .idle) {content : String} (hb : Text.isBlank content = false) :
    (s.submit content).2 = s.withQueued content := by
  rw [submit_queued hb (.inl h), drainQueue_withQueued h]

/-- An event that does not count is dropped, be it before or after, unless the input opens
    its stream. -/
theorem commutes_of_not_live (hc : s.Clear) {content : String} (hb : Text.isBlank content = false)
    {e : Envelope} (hl : s.isLive e.generation = false)
    (he : s.phase = .idle → e.generation ≠ s.generation + 1) : s.Commutes content e := by
  refine ⟨.refl Nat, fun _ _ => rfl, ?_⟩
  have hs : (s.submit content).2.isLive e.generation = false := by
    by_cases hi : s.phase = .idle
    · -- The input opens the next generation, which is not that of the event.
      rw [submit_started hb hi (hc hi).1, beginTurn_eq, openStream_eq, isLive,
        Bool.and_eq_false_iff]
      exact .inl (beq_false_of_ne (he hi))
    · rw [submit_busy hi hb]
      exact hl
  rw [handle_of_not_live hl]
  exact (handle_of_not_live hs).symm ▸ .refl _

/-- An event after which the session is still busy. -/
theorem commutes_of_frames (hp : s.phase ≠ .idle) {content : String}
    (hb : Text.isBlank content = false) {e : Envelope} (hf : Frames (fun s => s.handle e) s n es)
    (hp' : (s.handle e).phase ≠ .idle) : s.Commutes content e := by
  refine ⟨delay s.ids.used n, fun k hk => delay_of_lt hk, ?_⟩
  rw [submit_busy (s := s.reordered _) hp hb, submit_busy hp' hb]
  exact matches_enqueue hf content

/-- An event that ends the turn, after which the queue is drained. -/
theorem commutes_of_settles (hp : s.phase ≠ .idle) {content : String}
    (hb : Text.isBlank content = false) {e : Envelope} (hg : Frames g s 0 es)
    (hc : (g s).CanDrain) (he : ∀ entries ids outbox,
      (s.framed entries ids outbox).handle e = (g (s.framed entries ids outbox)).drainQueue) :
    s.Commutes content e := by
  refine ⟨delay s.ids.used 1, fun k hk => delay_of_lt hk, ?_⟩
  have hs : s.handle e = (g s).drainQueue := he s.queue.entries s.ids s.outbox
  rw [submit_busy (s := s.reordered _) hp hb, hs]
  exact (he _ _ _).symm ▸ matches_settle hg hc hb

/-- A turn that is complete, after which the session rests. -/
theorem commutes_rested (hp : s.phase ≠ .idle) {content : String}
    (hb : Text.isBlank content = false) {e : Envelope} (turn : ActiveTurn) (time : Option Count)
    (he : ∀ entries ids outbox, (s.framed entries ids outbox).handle e =
      ((s.framed entries ids outbox).completed turn time).releaseImmediate.settle .completed) :
    s.Commutes content e := by
  obtain ⟨es, hf⟩ := s.frames_completed turn time
  have hi := hf.comp (frames_releaseImmediate _)
  obtain ⟨fs, hg⟩ := frames_rested (s.completed turn time).releaseImmediate .completed
  refine commutes_of_settles hp hb (hi.comp hg) ⟨rfl, rfl, rfl⟩ fun entries ids outbox => ?_
  rw [he, settle_eq]

/-- A turn that is complete, after which the next call of a bulk decision is started. -/
theorem commutes_continued (hp : s.phase ≠ .idle) {content : String}
    (hb : Text.isBlank content = false) {e : Envelope} (turn : ActiveTurn) (time : Option Count)
    (callId : String) (decision : Decision)
    (he : ∀ entries ids outbox, (s.framed entries ids outbox).handle e =
      ((s.framed entries ids outbox).completed turn time).beginContinuation callId decision none) :
    s.Commutes content e := by
  obtain ⟨es, hf⟩ := s.frames_completed turn time
  obtain ⟨fs, hg⟩ := frames_beginContinuation (s.completed turn time) callId decision none
  have hp' : (s.handle e).phase ≠ .idle := by
    have hh : s.handle e = _ := he s.queue.entries s.ids s.outbox
    rw [hh, beginContinuation_eq]
    exact phase_openStream_ne _ _ _ _
  exact commutes_of_frames hp hb
    ((hf.comp hg).congr fun entries ids outbox _ => he entries ids outbox) hp'

/-- A turn that is complete is followed by the next call of a bulk decision, or by the
    oldest input. -/
theorem commutes_completed {turn : ActiveTurn} (ht : s.turn = some turn) (hp : s.phase ≠ .idle)
    {content : String} (hb : Text.isBlank content = false) {e : Envelope} {time : Option Count}
    (he : ∀ entries ids outbox, (s.framed entries ids outbox).handle e =
      (s.framed entries ids outbox).complete time) : s.Commutes content e := by
  -- Which call is next does not depend on the frame.
  have hc (entries : List QueuedInput) (ids : Ids) (outbox : List Effect) :
      (s.framed entries ids outbox).approvals = s.approvals := rfl
  cases hs : s.approvals.complete.1 with
  | next callId decision progress =>
    refine commutes_continued hp hb turn time callId decision fun entries ids outbox => ?_
    rw [he, complete_eq (s := s.framed entries ids outbox) ht, hc, hs]
  | _ =>
    refine commutes_rested hp hb turn time fun entries ids outbox => ?_
    rw [he, complete_eq (s := s.framed entries ids outbox) ht, hc, hs]

theorem commutes_failed {turn : ActiveTurn} (ht : s.turn = some turn) (hp : s.phase ≠ .idle)
    {content : String} (hb : Text.isBlank content = false) {e : Envelope} {message : String}
    (he : ∀ entries ids outbox, (s.framed entries ids outbox).handle e =
      (s.framed entries ids outbox).fail message) : s.Commutes content e := by
  obtain ⟨es, hf⟩ := s.frames_failed turn message
  obtain ⟨fs, hg⟩ := frames_rested (s.failed turn message) (.failed message)
  refine commutes_of_settles hp hb (hf.comp hg) ⟨rfl, rfl, rfl⟩ fun entries ids outbox => ?_
  rw [he, fail_eq (s := s.framed entries ids outbox) ht, settle_eq]

/-- Any event commutes with input, unless the input opens its stream. -/
theorem Coherent.commutes (h : s.Coherent) (hc : s.Clear) {content : String}
    (hb : Text.isBlank content = false) {e : Envelope}
    (he : s.phase = .idle → e.generation ≠ s.generation + 1) : s.Commutes content e := by
  cases hl : s.isLive e.generation with
  | false => exact commutes_of_not_live hc hb hl he
  | true =>
    obtain ⟨_, turn, ht⟩ := (s.isLive_iff _).1 hl
    have hp : s.phase ≠ .idle := fun hi => by
      rw [h.idle_iff.1 hi] at ht
      exact nomatch ht
    -- The event is live in every frame.
    have hh (entries : List QueuedInput) (ids : Ids) (outbox : List Effect) :
        (s.framed entries ids outbox).handle e = (s.framed entries ids outbox).apply e.event :=
      handle_of_live hl
    cases hn : e.event.isTerminal with
    | false =>
      obtain ⟨n, es, hf⟩ := frames_apply h.belongsTo hn
      refine commutes_of_frames hp hb
        (hf.congr fun entries ids outbox _ => hh entries ids outbox) ?_
      rw [handle_of_live hl, (continues_apply s hn).phase]
      exact hp
    | true =>
      obtain ⟨generation, event⟩ := e
      cases event with
      | completed time => exact commutes_completed ht hp hb hh
      | error message => exact commutes_failed ht hp hb hh
      | _ => exact nomatch hn

/-- Whatever the inputs, as long as the session is not shut down, submitting input and
    handling an event come to the same in either order. The event can be of any stream,
    except that of an idle session's next one, which the input opens. -/
theorem submit_handle_commute (conversationId : String) (interval now : Nat) (ids : Ids)
    {inputs : List Input} (h : .command .shutdown ∉ inputs) {content : String}
    (hb : Text.isBlank content = false) {e : Envelope}
    (he : let s := (start conversationId interval now ids).run inputs
      s.phase = .idle → e.generation ≠ s.generation + 1) :
    ((start conversationId interval now ids).run inputs).Commutes content e :=
  ((coherent_start conversationId interval now ids).run inputs).commutes
    (clear_run conversationId interval now ids h) hb he

/-- Input that comes with the end of a turn starts, or is queued and then starts. -/
theorem submit_handle_commute_completed :
    let inputs : List Input := [.command (.submit "first"), .command (.submit "second")]
    let s := (start "c" 100 0 ⟨toString, 0⟩).run inputs
    .command .shutdown ∉ inputs ∧ Text.isBlank "third" = false ∧ s.phase = .streaming ∧
      s.Commutes "third" ⟨1, .completed none⟩ := by
  intro inputs s
  have h : .command .shutdown ∉ inputs := by decide
  have hp : s.phase = .streaming := by decide
  refine ⟨h, by decide, hp,
    submit_handle_commute "c" 100 0 ⟨toString, 0⟩ h (by decide) fun hi => ?_⟩
  exact absurd (hp.symm.trans hi) Phase.noConfusion

/-- An event that is tagged with the generation of the next stream is written after the
    input that opens it, and dropped before. -/
theorem not_commutes_next_generation :
    ¬((start "c" 100 0 ⟨toString, 0⟩).run []).Commutes "hi" ⟨1, .token "x"⟩ := by
  rintro ⟨order, _, h⟩
  -- The one session is writing an answer and the other is not.
  have hp := congrArg (fun s => s.transcript.inProgress.isSome) h.state
  exact Bool.noConfusion (hp : true = false)

end Session

end Dialogue
