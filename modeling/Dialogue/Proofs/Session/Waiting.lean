import Dialogue.Proofs.Session.Coherence

/-!
# Waiting input

Input waits in the queue while a session serves other input, or while it is held
back by the latch that an entry taken out of order leaves. So an idle session must
have neither (`Session.Clear`), or what waits would wait for ever.

* `clear_drainQueue`: a session that rests with the latch free is clear once its
  queue is drained;
* `Clear.react`: so every input keeps a session clear, except that shutting down
  leaves the queue as it is;
* `no_input_stranded`: a session that is not shut down is clear whenever it is
  idle, so input starts at once exactly if the session is idle, and otherwise
  waits behind all other.
-/

namespace Dialogue

namespace Session

variable {s s' : Session}

/-- Nothing waits while the session is idle. -/
def Clear (s : Session) : Prop :=
  s.phase = .idle → s.queue.entries = [] ∧ s.queue.immediate = false

/-- A session that is not idle can have input waiting. -/
theorem clear_of_ne (h : s.phase ≠ .idle) : s.Clear :=
  fun hi => absurd hi h

theorem Clear.congr (h : s.Clear) (s' : Session) (hp : s'.phase = s.phase)
    (hq : s'.queue = s.queue) : s'.Clear := by
  rw [Clear, hp, hq]
  exact h

/-! ## Operations and the queue -/

theorem phase_openStream_ne (s : Session) (kind : TurnKind) (request : Request)
    (resumed : Option Message) : (s.openStream kind request resumed).phase ≠ .idle := by
  rw [openStream_eq]
  exact s.servingPhase_ne.1

/-- While a stream is open the session is not idle, so nothing is said of its queue. -/
theorem clear_beginTurn (s : Session) (content : String) : (s.beginTurn content).Clear := by
  rw [beginTurn_eq]
  exact clear_of_ne (phase_openStream_ne _ _ _ _)

theorem clear_beginContinuation (s : Session) (callId : String) (decision : Decision)
    (reason : Option String) : (s.beginContinuation callId decision reason).Clear := by
  rw [beginContinuation_eq]
  exact clear_of_ne (phase_openStream_ne _ _ _ _)

/-- Once the queue is drained, nothing waits in a session without a turn and with the
    latch free: if it is idle, the oldest entry was started. -/
theorem clear_drainQueue (ht : s.turn = none) (hl : s.queue.immediate = false) :
    s.drainQueue.Clear := by
  rcases s.drainQueue_cases with ⟨hd, he⟩ | ⟨entry, rest, _, _, hd⟩
  · rw [hd]
    exact fun hi => ⟨he ⟨hi, ht, hl⟩, hl⟩
  · rw [hd]
    exact clear_beginTurn _ _

theorem clear_settle (ht : s.turn = none) (hl : s.queue.immediate = false) (outcome : Outcome) :
    (s.settle outcome).Clear := by
  rw [settle_eq]
  exact clear_drainQueue ht hl

/-- A turn that has come to its end frees the latch before the queue is drained. -/
theorem clear_complete {turn : ActiveTurn} (ht : s.turn = some turn) (time : Option Count) :
    (s.complete time).Clear := by
  rw [complete_eq ht]
  cases s.approvals.complete.1 with
  | next callId decision progress => exact clear_beginContinuation _ _ _ _
  | finished progress => exact clear_settle rfl rfl _
  | idle => exact clear_settle rfl rfl _

theorem clear_fail {turn : ActiveTurn} (ht : s.turn = some turn) (message : String) :
    (s.fail message).Clear := by
  rw [fail_eq ht]
  exact clear_settle rfl rfl _

/-- So does a turn that is cancelled. -/
theorem clear_cancelled (h : s.cancelled.turn = none) :
    (s.cancelled.setPhase .idle).drainQueue.Clear := by
  have hq : s.cancelled.queue.immediate = false := by
    rw [cancelled, queue_interrupt, setPhase_eq]
    rfl
  rw [setPhase_eq]
  exact clear_drainQueue (s := { s.cancelled with phase := .idle, outbox := _ }) h hq

/-! ## Submitting input -/

/-- Input that is queued while the session is not idle waits behind all other. -/
theorem drainQueue_withQueued (h : s.phase ≠ .idle) (content : String) :
    (s.withQueued content).drainQueue = s.withQueued content :=
  drainQueue_of_not_canDrain fun hc => h hc.idle

/-- Where nothing waits while it is idle, a session starts input exactly if it is
    idle, and else queues it behind all other. -/
theorem Clear.submit (h : s.Clear) {content : String} (hb : Text.isBlank content = false) :
    ((s.submit content).1 = .ok .started ↔ s.phase = .idle) ∧
      (s.phase ≠ .idle →
        (s.submit content).1 = .ok (.queued (s.queuedInput content)) ∧
          (s.submit content).2.queue.entries = s.queue.entries ++ [s.queuedInput content]) := by
  by_cases hi : s.phase = .idle
  · rw [submit_started hb hi (h hi).1]
    exact ⟨iff_of_true rfl hi, fun hn => absurd hi hn⟩
  · rw [submit_queued hb (.inl hi), drainQueue_withQueued hi]
    exact ⟨⟨fun hs => (nomatch hs), fun h => absurd h hi⟩, fun _ => ⟨rfl, rfl⟩⟩

/-! ## Every input but shutting down -/

theorem Clear.reaction (h : s.Clear) (hc : s.Coherent) {i : Input}
    {r : Option (Except Error Reply)} (hr : s.Reaction i r s') (hi : i ≠ .command .shutdown) :
    s'.Clear := by
  cases hr with
  | refuses _ => exact h
  | ignores _ => exact h
  | waits => exact h.congr _ rfl rfl
  | writes _ he =>
    have hw := continues_apply s he
    exact h.congr _ hw.phase hw.queue
  | completes hl =>
    obtain ⟨_, turn, ht⟩ := (s.isLive_iff _).1 hl
    exact clear_complete ht _
  | fails hl =>
    obtain ⟨_, turn, ht⟩ := (s.isLive_iff _).1 hl
    exact clear_fail ht _
  | starts _ _ _ => exact clear_beginTurn _ _
  | @queues content _ hb =>
    -- Nothing waits while the session is idle, so it is not.
    have hp : s.phase ≠ .idle := hb.elim id fun hq hp => hq (h hp).1
    rw [drainQueue_withQueued hp]
    exact clear_of_ne hp
  | restarts _ => exact clear_beginTurn _ _
  | pulls _ _ _ _ => exact clear_beginTurn _ _
  | removes hq _ _ =>
    -- An entry that is removed was waiting.
    refine clear_of_ne fun hp => ?_
    have he := (h hp).1
    rw [hq] at he
    exact List.append_ne_nil_of_right_ne_nil _ (List.cons_ne_nil _ _) he
  | restsOn ht =>
    -- Also cancelling without a turn frees the latch.
    rw [abortApprovals_eq]
    exact fun hp => ⟨(h hp).1, rfl⟩
  | cancels ht =>
    obtain ⟨turn, ht⟩ := Option.ne_none_iff_exists'.1 ht
    exact clear_cancelled (quiet_cancelled ht hc.marked).1.turn
  | decides _ => exact clear_beginContinuation _ _ _ _
  | decidesAll _ _ => exact clear_beginContinuation _ _ _ _
  | hydrates _ => exact h.congr _ rfl rfl
  | shutsDown => exact absurd rfl hi

theorem clear_run (conversationId : String) (interval now : Nat) (ids : Ids)
    {inputs : List Input} (h : .command .shutdown ∉ inputs) :
    ((start conversationId interval now ids).run inputs).Clear := by
  refine (run_induction (P := fun s => s.Coherent ∧ s.Clear) ⟨?_, ?_⟩ fun s i hi hs => ?_).2
  · exact coherent_start conversationId interval now ids
  · exact fun _ => ⟨rfl, rfl⟩
  · have hne : i ≠ .command .shutdown := fun he => h (he ▸ hi)
    exact ⟨hs.1.react i, hs.2.reaction hs.1 (s.reaction i) hne⟩

/-- Whatever the inputs, as long as the session is not shut down, no input is stranded:
    when it is idle its queue is empty and the latch is free. So text that is not blank
    starts at once exactly if the session is idle, and otherwise is queued behind all
    other. -/
theorem no_input_stranded (conversationId : String) (interval now : Nat) (ids : Ids)
    (inputs : List Input) (h : .command .shutdown ∉ inputs) :
    let s := (start conversationId interval now ids).run inputs
    (s.phase = .idle → s.queue.entries = [] ∧ s.queue.immediate = false) ∧
      ∀ content, Text.isBlank content = false →
        ((s.submit content).1 = .ok .started ↔ s.phase = .idle) ∧
          (s.phase ≠ .idle →
            (s.submit content).1 = .ok (.queued (s.queuedInput content)) ∧
              (s.submit content).2.queue.entries =
                s.queue.entries ++ [s.queuedInput content]) := by
  intro s
  have hs : s.Clear := clear_run conversationId interval now ids h
  exact ⟨hs, fun content hb => hs.submit hb⟩

/-- When the turns of both inputs are over nothing waits, and more input starts at once. -/
theorem no_input_stranded_after_turns :
    let inputs : List Input := [.command (.submit "first"), .command (.submit "second"),
      .event ⟨1, .completed none⟩, .event ⟨2, .error "lost"⟩]
    let s := (start "c" 100 0 ⟨toString, 0⟩).run inputs
    .command .shutdown ∉ inputs ∧ (s.queue.entries = [] ∧ s.queue.immediate = false) ∧
      (s.submit "third").1 = .ok .started := by
  intro inputs s
  have h : .command .shutdown ∉ inputs := by decide
  have hi : s.phase = .idle := by decide
  obtain ⟨hq, hs⟩ := no_input_stranded "c" 100 0 ⟨toString, 0⟩ inputs h
  exact ⟨h, hq hi, (hs "third" (by decide)).1.2 hi⟩

end Session

end Dialogue
