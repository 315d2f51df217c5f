import Dialogue.Proofs.Session.History
import Dialogue.Proofs.Session.Reaction

/-!
# Refused commands

A command is refused for one of a few reasons (`Session.Refuses`), and then nothing comes
of it: the session stays as it was, in all its parts, and nothing is told, opened, given up
or stopped.

* `perform_of_refuses`: where there is a reason to refuse, the command is refused for it;
* `refuses_of_error`: a command that is refused had such a reason;
* `refused_changes_nothing`: so the two say the same of every command to every session.
-/

namespace Dialogue

namespace InputQueue

variable {q : InputQueue} {id : String}

/-- An entry that is not queued is not found. -/
theorem remove?_of_ne (h : ∀ e ∈ q.entries, e.id ≠ id) : q.remove? id = none := by
  rw [remove?, Option.map_eq_none_iff, List.find?_eq_none]
  exact fun e he hid => h e he (beq_iff_eq.1 hid)

theorem takeImmediate_of_immediate (h : q.immediate = true) :
    q.takeImmediate id = .error .immediateInFlight :=
  if_pos h

theorem takeImmediate_of_ne (hi : q.immediate = false) (h : ∀ e ∈ q.entries, e.id ≠ id) :
    q.takeImmediate id = .error (.noSuchEntry id) := by
  rw [takeImmediate, if_neg (by rw [hi]; exact Bool.noConfusion), remove?_of_ne h]

end InputQueue

namespace Session

variable {s : Session} {c : Command} {e : Error}

/-- A command that there is a reason to refuse is refused before anything is done. -/
theorem perform_of_refuses (h : s.Refuses c e) : s.perform c = (.error e, s) := by
  cases h with
  | blankSubmit hb => rw [perform, submit, if_pos hb]; rfl
  | blankStart hb => rw [perform, startTurn, if_pos hb]; rfl
  | blankDecision hb => rw [perform, decideSingle, if_pos hb]; rfl
  | latched hi => rw [perform, submitNow, InputQueue.takeImmediate_of_immediate hi]; rfl
  | notPulled hi hn => rw [perform, submitNow, InputQueue.takeImmediate_of_ne hi hn]; rfl
  | notRemoved hn => rw [perform, removeQueued, InputQueue.remove?_of_ne hn]; rfl
  | bulkRunning hp =>
    have hd : s.approvals.isDraining = true := Option.isSome_iff_ne_none.2 hp
    rw [perform, decideBulk, if_pos hd]
    rfl
  | nothingApprovable hp ha =>
    -- There is nothing to interrupt the turn for, so this is found out before that.
    have hd : ¬s.approvals.isDraining = true := fun hd => Option.isSome_iff_ne_none.1 hd hp
    rw [perform, decideBulk, if_neg hd, ha]
    rfl

/-- No command is refused without a reason. -/
theorem refuses_of_error (h : (s.perform c).1 = .error e) : s.Refuses c e := by
  have hr : s.Reaction (.command c) (some (s.perform c).1) (s.perform c).2 :=
    s.reaction (.command c)
  rw [h] at hr
  -- Every other way of taking a command replies with what came of it.
  generalize (s.perform c).2 = s' at hr
  cases hr with
  | refuses hr => exact hr
  | ignores hi => cases hi

/-- A command is refused exactly if it is about blank text, about an entry that is not
    queued or must wait for another one, or is a bulk decision while one runs or with
    nothing to decide. Then the session is what it was, and nothing was done to the
    outside. -/
theorem refused_changes_nothing (s : Session) (c : Command) (e : Error) :
    ((s.perform c).1 = .error e ↔ s.Refuses c e) ∧
      ((s.perform c).1 = .error e →
        (s.perform c).2 = s ∧ (s.transition (.command c)).effects = []) := by
  refine ⟨⟨refuses_of_error, fun h => by rw [perform_of_refuses h]⟩, fun h => ?_⟩
  have hs : (s.react (.command c)).2 = s :=
    congrArg Prod.snd (perform_of_refuses (refuses_of_error h))
  refine ⟨hs, ?_⟩
  rw [transition, hs, List.drop_length]

/-- An entry that was sent out of order holds back the next one, although that is queued. -/
theorem refused_changes_nothing_latched :
    let inputs : List Input := [.command (.submit "first"), .command (.submit "second"),
      .command (.submit "third"), .command (.submitNow "1")]
    let s := (start "c" 100 0 ⟨toString, 0⟩).run inputs
    s.queue.entries.map (·.content) = ["third"] ∧
      (s.perform (.submitNow "2")).1 = .error .immediateInFlight ∧
      (s.perform (.submitNow "2")).2 = s ∧
      (s.transition (.command (.submitNow "2"))).effects = [] := by
  intro inputs s
  have hi : s.queue.immediate = true := by decide
  obtain ⟨hr, hn⟩ := refused_changes_nothing s (.submitNow "2") .immediateInFlight
  have he := hr.2 (.latched hi)
  exact ⟨by decide, he, hn he⟩

end Session

end Dialogue
