import Dialogue.Proofs.Session.Coherence
import Dialogue.Proofs.Session.Writing
import Dialogue.Proofs.Transcript.Moving

/-!
# The transcript only grows

No input takes anything from the transcript that was there before: every message keeps
its place, and only ever has more written to it.

What an event writes is added to the message in progress (`Writes.carries`). Stored messages
come into a transcript that is empty. Every other input moves the transcript
(`Transcript.Moves`), and moves lose nothing.

* `moves_interrupt`, `moves_complete`, `moves_fail`: the end of a stream keeps what it wrote;
* `moves_beginTurn`, `moves_beginContinuation`: a new message comes last, and one that is
  continued stays last;
* `Coherent.moves`, `Coherent.carries`: so every way of taking an input carries the
  transcript;
* `transcript_only_grows`: whatever the inputs, the next one leaves every message in
  its place.
-/

namespace Dialogue

namespace Session

open Transcript

variable {s s' : Session}

theorem transcript_setPhase (s : Session) (p : Phase) :
    (s.setPhase p).transcript = s.transcript := by
  rw [setPhase_eq]

/-! ## Writing -/

/-- What an event writes is added to what is there. -/
theorem Writes.carries (h : s.Writes s') (hl : s.transcript.Lasting) :
    s.transcript.Carries s'.transcript := by
  cases h with
  | nothing hx _ =>
    rw [hx]
    exact hl.carries
  | notes hx _ _ =>
    rw [hx]
    exact hl.carries_noted _
  | goesOn hp hm hc hx _ =>
    rw [hx]
    exact hl.carries_setCurrent hp hm (.inl hc)
  | begins hp hm hc _ hx _ =>
    rw [hx]
    exact carries_begin hp hm.isAssistant (.inl hc)

/-! ## Ending a stream -/

theorem moves_interrupt (s : Session) : s.transcript.Moves s.interrupt.transcript := by
  cases ht : s.turn with
  | none =>
    rw [interrupt_of_noTurn ht]
    exact .refl _
  | some turn =>
    rw [interrupt_eq ht]
    exact (Move.finalizes _).moves

/-! ## Opening a stream -/

theorem transcript_beginTurn (s : Session) (content : String) :
    (s.beginTurn content).transcript = s.transcript.push (s.inputMessage content) := by
  rw [beginTurn_eq, openStream_eq]
  rfl

theorem moves_beginTurn (hp : s.transcript.inProgress = none) (content : String) :
    s.transcript.Moves (s.beginTurn content).transcript := by
  rw [transcript_beginTurn]
  exact (Move.pushes hp rfl).moves

/-- A continuation resumes the last message if that is the assistant's, and else none. -/
theorem transcript_beginContinuation_cases (s : Session) (callId : String) (decision : Decision)
    (reason : Option String) :
    ((s.beginContinuation callId decision reason).transcript = s.transcript ∧
      ∀ m ∈ s.transcript.finalized.getLast?, m.isAssistant = false) ∨
    ∃ before m, s.transcript.finalized = before ++ [m] ∧ m.isAssistant = true ∧
      (s.beginContinuation callId decision reason).transcript =
        resume { s.transcript with finalized := before } (s.generation + 1) m := by
  rw [beginContinuation_eq, openStream_eq, withoutResumed]
  rcases s.transcript.takeLastAssistant_cases with ⟨ht, hn⟩ | ⟨before, m, hf, ha, ht⟩
  · rw [ht]
    exact .inl ⟨rfl, hn⟩
  · rw [ht]
    exact .inr ⟨before, m, hf, ha, rfl⟩

theorem moves_beginContinuation (hp : s.transcript.inProgress = none) (callId : String)
    (decision : Decision) (reason : Option String) :
    s.transcript.Moves (s.beginContinuation callId decision reason).transcript := by
  rcases s.transcript_beginContinuation_cases callId decision reason with
    ⟨hx, _⟩ | ⟨before, m, hf, ha, hx⟩
  · rw [hx]
    exact .refl _
  · rw [hx]
    exact (Move.resumes _ hp hf ha).moves

theorem moves_drainQueue (hp : s.turn = none → s.transcript.inProgress = none) :
    s.transcript.Moves s.drainQueue.transcript := by
  rcases s.drainQueue_cases with ⟨hd, _⟩ | ⟨entry, rest, hc, _, hd⟩
  · rw [hd]
    exact .refl _
  · rw [hd]
    exact moves_beginTurn (s := s.afterHead rest) (hp hc.noTurn) _

theorem moves_settle (hp : s.transcript.inProgress = none) (outcome : Outcome) :
    s.transcript.Moves (s.settle outcome).transcript := by
  rw [settle_eq]
  exact moves_drainQueue (s := s.rested outcome) fun _ => hp

/-! ## Every input -/

theorem moves_complete {turn : ActiveTurn} (ht : s.turn = some turn) (time : Option Count) :
    s.transcript.Moves (s.complete time).transcript := by
  have hc : s.transcript.Moves (s.completed turn time).transcript := (Move.finalizes _).moves
  have hp : (s.completed turn time).transcript.inProgress = none := inProgress_finalize _ _
  rw [complete_eq ht]
  cases s.approvals.complete.1 with
  | next callId decision progress =>
    exact hc.trans (moves_beginContinuation hp callId decision none)
  | finished progress =>
    exact hc.trans (moves_settle (s := (s.completed turn time).releaseImmediate) hp _)
  | idle => exact hc.trans (moves_settle (s := (s.completed turn time).releaseImmediate) hp _)

theorem moves_fail {turn : ActiveTurn} (ht : s.turn = some turn) (message : String) :
    s.transcript.Moves (s.fail message).transcript := by
  have hc : s.transcript.Moves (s.failed turn message).transcript := (Move.finalizes _).moves
  rw [fail_eq ht]
  exact hc.trans (moves_settle (inProgress_finalize _ _) _)

/-- Every way of taking an input moves the transcript of a coherent session, but writing and
    taking stored messages. -/
theorem Coherent.moves (h : s.Coherent) {i : Input} {r : Option (Except Error Reply)}
    (hr : s.Reaction i r s')
    (hw : ¬∃ e, i = .event e ∧ s.isLive e.generation = true ∧ e.event.isTerminal = false)
    (hh : ¬∃ messages, i = .command (.hydrate messages) ∧ s.canHydrate = true) :
    s.transcript.Moves s'.transcript := by
  have hi : s.transcript.Moves s.interrupt.transcript := s.moves_interrupt
  have hq : s.interrupt.Quiet := h.interrupt.1
  cases hr with
  | refuses _ | ignores _ | waits | removes _ _ _ => exact .refl _
  | writes hl he => exact absurd ⟨_, rfl, hl, he⟩ hw
  | completes hl =>
    obtain ⟨_, turn, ht⟩ := (s.isLive_iff _).1 hl
    exact moves_complete ht _
  | fails hl =>
    obtain ⟨_, turn, ht⟩ := (s.isLive_iff _).1 hl
    exact moves_fail ht _
  | starts _ hp _ => exact moves_beginTurn (h.quiet (h.idle_iff.1 hp)).inProgress _
  | @queues content _ _ =>
    -- Draining finds a turn, or nothing in progress.
    exact moves_drainQueue (s := s.withQueued content) fun ht => (h.quiet ht).inProgress
  | restarts _ =>
    exact hi.trans (moves_beginTurn (s := s.interrupt.releaseImmediate) hq.inProgress _)
  | @pulls _ _ before after _ _ _ _ =>
    have hw := h.congr (s.withQueue ⟨before ++ after, true⟩) rfl rfl rfl rfl rfl
    have hi := (s.withQueue ⟨before ++ after, true⟩).moves_interrupt
    exact hi.trans (moves_beginTurn hw.interrupt.1.inProgress _)
  | restsOn _ =>
    rw [abortApprovals_eq]
    exact .refl _
  | cancels ht =>
    -- Changing the phase leaves the transcript as it is, so this is an interrupt.
    obtain ⟨turn, ht⟩ := Option.ne_none_iff_exists'.1 ht
    have hc : s.transcript.Moves (s.cancelled.setPhase .idle).transcript := by
      have hi := (s.releaseImmediate.setPhase .cancelling).moves_interrupt
      rw [transcript_setPhase] at hi
      rw [transcript_setPhase]
      exact hi
    refine hc.trans (moves_drainQueue fun _ => ?_)
    rw [transcript_setPhase]
    exact (quiet_cancelled ht h.marked).1.inProgress
  | decides _ => exact hi.trans (moves_beginContinuation hq.inProgress _ _ _)
  | @decidesAll decision _ rest _ _ =>
    have hb : (s.bulkBegun rest ⟨0, rest.length + 1, decision⟩).transcript.inProgress = none :=
      hq.inProgress
    exact hi.trans (moves_beginContinuation hb _ _ _)
  | hydrates hc => exact absurd ⟨_, rfl, hc⟩ hh
  | shutsDown =>
    rw [transcript_setPhase]
    exact hi

theorem Reaction.eq_apply {e : Envelope} {r : Option (Except Error Reply)}
    (hr : s.Reaction (.event e) r s') (hl : s.isLive e.generation = true)
    (he : e.event.isTerminal = false) : s' = s.apply e.event := by
  cases hr with
  | ignores hi =>
    cases hi with
    | event hn => exact Bool.noConfusion (hl.symm.trans hn)
  | writes _ _ => rfl
  | completes _ | fails _ => exact Bool.noConfusion he

theorem Reaction.eq_hydrated {messages : List Message} {r : Option (Except Error Reply)}
    (hr : s.Reaction (.command (.hydrate messages)) r s') (hc : s.canHydrate = true) :
    r = some (.ok (.flag true)) ∧ s' = s.hydrated messages := by
  cases hr with
  | refuses hr => cases hr
  | ignores hi =>
    cases hi with
    | hydrate hn => exact Bool.noConfusion (hc.symm.trans hn)
  | hydrates _ => exact ⟨rfl, rfl⟩

/-- Every way of taking an input carries the transcript of a coherent session. -/
theorem Coherent.carries (h : s.Coherent) (hl : s.transcript.Lasting) {i : Input}
    {r : Option (Except Error Reply)} (hr : s.Reaction i r s') :
    s.transcript.Carries s'.transcript := by
  by_cases hw : ∃ e, i = .event e ∧ s.isLive e.generation = true ∧ e.event.isTerminal = false
  · obtain ⟨e, rfl, hlive, he⟩ := hw
    rw [hr.eq_apply hlive he]
    exact (writes_apply h.belongsTo he).carries hl
  · by_cases hh : ∃ messages, i = .command (.hydrate messages) ∧ s.canHydrate = true
    · -- There is no message before.
      obtain ⟨messages, rfl, hc⟩ := hh
      rw [(hr.eq_hydrated hc).2, ((s.canHydrate_iff).1 hc).2.2]
      exact ⟨.nil _, lasting_of_none rfl⟩
    · exact (h.moves hr hw hh).carries hl

/-- What is known of every session that some inputs lead to. -/
theorem lasting_run (conversationId : String) (interval now : Nat) (ids : Ids)
    (inputs : List Input) :
    ((start conversationId interval now ids).run inputs).Coherent ∧
      ((start conversationId interval now ids).run inputs).transcript.Lasting := by
  refine run_induction (P := fun s => s.Coherent ∧ s.transcript.Lasting) ⟨?_, ?_⟩
    fun s i _ hs => ⟨hs.1.react i, (hs.1.carries hs.2 (s.reaction i)).lasting⟩
  · exact coherent_start conversationId interval now ids
  · exact lasting_of_none rfl

/-- The transcript only grows, whatever the inputs were and whatever the next one is. There
    are at least as many messages as before, and each that was there is still in its
    place: the same message by the same author, with the same text and segments, which
    may have gone on. -/
theorem transcript_only_grows (conversationId : String) (interval now : Nat) (ids : Ids)
    (inputs : List Input) (i : Input) :
    let s := (start conversationId interval now ids).run inputs
    let before := s.transcript.messages
    let after := (s.react i).2.transcript.messages
    before.length ≤ after.length ∧
      ∀ (k : Nat) (m : Message), before[k]? = some m →
        ∃ m', after[k]? = some m' ∧ m.Extends m' := by
  intro s before after
  obtain ⟨hc, hl⟩ := lasting_run conversationId interval now ids inputs
  have hg : Grows Message.Extends before after := (hc.carries hl (s.reaction i)).grows
  exact ⟨hg.length_le, fun k m hk => hg.getElem? hk⟩

end Session

end Dialogue
