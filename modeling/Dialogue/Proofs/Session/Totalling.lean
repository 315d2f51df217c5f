import Dialogue.Proofs.Session.Noting

/-!
# The total that a session shows

While a stream runs, what it has used is shown in flight, on top of what is noted on finalized
messages. When it ends, what was in flight is noted on its message, and when a message is taken
back, what is noted on it is in flight again. As accounts may be added in any parts, the total is
the same before and after:

* `Noted.total_ended`: when a stream ends that has a message;
* `Quiet.total_beginTurn`, `Quiet.total_beginContinuation`: when the next one is opened;
* `Noted.total_reaction`: so no command moves the total, nor does the end of a stream, but for
  the response time that completing it adds;
* `total_moves_by_reports`: the laws of adding accounts that this rests on, and what they are for.
-/

namespace Dialogue

theorem Count.add_eq_zero_iff {a b : Count} : a + b = 0 ↔ a = 0 ∧ b = 0 := by
  simp only [Count.ext_iff, Count.val_add, Count.val_zero, Count.val_max]
  omega

namespace Usage

variable {u v delta : Usage}

theorem eq_empty_of_combine (h : u.combine v = .empty) : u = .empty ∧ v = .empty := by
  obtain ⟨_, _, _, _, _, _, _⟩ := u
  obtain ⟨_, _, _, _, _, _, _⟩ := v
  simp_all [combine, empty, Count.add_eq_zero_iff]

theorem eq_empty_of_merge (h : u.merge delta = .empty) : u = .empty := by
  obtain ⟨_, _, _, _, _, _, _⟩ := u
  simp_all [merge, empty, Count.add_eq_zero_iff]

end Usage

/-- The account noted when a message is finalized is the one given, if nothing else was noted
    before in case that is empty. -/
theorem Transcript.InProgress.usage_settle {p : InProgress} {u : Usage}
    (h : u = .empty → p.message.usage.getD .empty = .empty) :
    (InProgress.settle p (some u)).usage.getD .empty = u := by
  rw [InProgress.settle]
  by_cases he : u = .empty
  · rw [Option.filter_some, if_neg (by rw [he]; exact Bool.noConfusion), he]
    exact h he
  · have hn : u.isEmpty = false := beq_eq_false_iff_ne.2 he
    rw [Option.filter_some, if_pos (by rw [hn]; rfl)]
    rfl

namespace Session

open Transcript

variable {s s' : Session} {h : List Transition} {i : Input} {r : Option (Except Error Reply)}

theorem total_of_noTurn (ht : s.turn = none) :
    s.sessionUsage = Usage.aggregate s.transcript.finalized none := by
  rw [sessionUsage, ht]
  rfl

theorem total_of_turn {turn : ActiveTurn} (ht : s.turn = some turn) :
    s.sessionUsage = (Usage.aggregate s.transcript.finalized none).combine
      (turn.baseUsage.combine s.usage) := by
  rw [sessionUsage, inFlightUsage, ht]
  rfl

/-! ## Opening a stream -/

/-- What is noted on a message that goes on is in flight, and nothing else. -/
theorem Quiet.total_openStream (hq : s.Quiet) (kind : TurnKind) (request : Request)
    (resumed : Option Message) : (s.openStream kind request resumed).sessionUsage =
      (Usage.aggregate s.transcript.finalized none).combine
        ((resumed.bind (·.usage)).getD .empty) := by
  have hx : (s.resumedTranscript (s.generation + 1) resumed).finalized =
      s.transcript.finalized := by
    cases resumed with
    | none => rfl
    | some m =>
      have hr := resume_of_none hq.inProgress (s.generation + 1) m
      exact (congrArg Transcript.finalized hr).trans rfl
  rw [openStream_eq, total_of_turn rfl, Usage.combine_empty]
  exact congrArg (fun ms => (Usage.aggregate ms none).combine _) hx

theorem Quiet.total_beginTurn (hq : s.Quiet) (content : String) :
    (s.beginTurn content).sessionUsage = s.sessionUsage := by
  rw [beginTurn_eq, (hq.withInput content).total_openStream, Option.bind_none, Option.getD_none,
    Usage.combine_empty, total_of_noTurn hq.turn]
  exact Usage.aggregate_concat_user rfl

/-- A message that is taken back was the last one. -/
theorem Quiet.total_beginContinuation (hq : s.Quiet) (callId : String) (decision : Decision)
    (reason : Option String) :
    (s.beginContinuation callId decision reason).sessionUsage = s.sessionUsage := by
  rw [beginContinuation_eq, hq.withoutResumed.total_openStream, total_of_noTurn hq.turn,
    Session.withoutResumed]
  rcases s.transcript.takeLastAssistant_cases with ⟨ht, _⟩ | ⟨before, m, hf, ha, ht⟩
  · rw [ht]
    exact Usage.combine_empty _
  · rw [ht, hf, Usage.aggregate_concat ha]
    rfl

theorem Quiet.total_drainQueue (hq : s.Quiet) : s.drainQueue.sessionUsage = s.sessionUsage := by
  rcases s.drainQueue_cases with ⟨hd, _⟩ | ⟨entry, rest, _, _, hd⟩
  · rw [hd]
  · rw [hd, (hq.congr (s.afterHead rest) rfl rfl).total_beginTurn]
    rfl

theorem Quiet.total_settle (hq : s.Quiet) (outcome : Outcome) :
    (s.settle outcome).sessionUsage = s.sessionUsage := by
  rw [settle_eq, (hq.congr (s.rested outcome) rfl rfl).total_drainQueue]
  rfl

/-! ## Ending a stream -/

/-- If nothing is in flight, then nothing is noted on the message in progress. -/
theorem Notes.notedUsage_eq_empty {es : List TurnEvent} (hn : Notes es s)
    (he : s.inFlightUsage = .empty) : s.notedUsage = .empty := by
  have hu : s.notedUsage = ((s.account?.map (·.2)).getD none).getD .empty := by
    rw [notedUsage, account?, current?]
    cases s.transcript.inProgress <;> rfl
  rw [hu]
  cases hn with
  | resumed ha hu =>
    rw [ha]
    exact hu.trans he
  | unbegun ha _ _ =>
    rw [ha]
    rfl
  | begun ha _ _ =>
    rw [ha]
    split
    · rfl
    · exact he

theorem Noted.notedUsage_eq_empty (hs : Noted h s) (he : s.inFlightUsage = .empty) :
    s.notedUsage = .empty := by
  cases ht : s.turn with
  | some turn => exact (hs.notes turn ht).notedUsage_eq_empty he
  | none =>
    rw [notedUsage, current?, (hs.summed.coherent.quiet ht).inProgress]
    rfl

/-- A stream that has a message ends with what it has used noted on it. -/
theorem total_ended (hn : s.inFlightUsage = .empty → s.notedUsage = .empty)
    (hl : s.transcript.Lasting) (hp : s.transcript.inProgress ≠ none) {turn : ActiveTurn}
    (ht : s.turn = some turn) {usage : Usage} (hu : usage = .empty → s.usage = .empty)
    (ht' : s'.turn = none)
    (hx : s'.transcript = (s.transcript.finalize (some (turn.baseUsage.combine usage))).2) :
    s'.sessionUsage = sessionUsage { s with usage } := by
  obtain ⟨p, hp⟩ := Option.ne_none_iff_exists'.1 hp
  have hm : ((InProgress.settle p (some (turn.baseUsage.combine usage))).usage.getD .empty) =
      turn.baseUsage.combine usage := by
    refine InProgress.usage_settle fun he => ?_
    obtain ⟨hb, he⟩ := Usage.eq_empty_of_combine he
    have hf : s.inFlightUsage = .empty := by
      rw [inFlightUsage, ht, hu he]
      exact (Usage.combine_empty _).trans hb
    have hnoted := hn hf
    rwa [notedUsage, current?, hp] at hnoted
  have ha : (InProgress.settle p (some (turn.baseUsage.combine usage))).isAssistant = true :=
    hl.isAssistant p hp
  rw [total_of_noTurn ht', hx, hl.finalize_of_some hp, Usage.aggregate_concat ha, hm,
    Usage.aggregate_some, total_of_turn (s := { s with usage }) ht]

theorem total_interrupt (hn : s.inFlightUsage = .empty → s.notedUsage = .empty)
    (hl : s.transcript.Lasting) (hp : s.turn ≠ none → s.transcript.inProgress ≠ none) :
    s.interrupt.sessionUsage = s.sessionUsage := by
  cases ht : s.turn with
  | none => rw [interrupt_of_noTurn ht]
  | some turn =>
    have hx := congrArg Session.transcript (interrupt_eq ht)
    exact total_ended hn hl (hp (ht ▸ Option.some_ne_none turn)) ht id s.turn_interrupt hx

theorem Noted.total_fail (hs : Noted h s) (hl : s.transcript.Lasting)
    (hp : s.transcript.inProgress ≠ none) {turn : ActiveTurn} (ht : s.turn = some turn)
    (message : String) : (s.fail message).sessionUsage = s.sessionUsage := by
  rw [fail_eq ht, (hs.summed.coherent.failed turn message).total_settle]
  exact total_ended hs.notedUsage_eq_empty hl hp ht id rfl rfl

/-- Completing a stream adds its response time to what it has used, also if another stream goes
    on with the message. -/
theorem Noted.total_complete (hs : Noted h s) (hl : s.transcript.Lasting)
    (hp : s.transcript.inProgress ≠ none) {turn : ActiveTurn} (ht : s.turn = some turn)
    (time : Option Count) :
    (s.complete time).sessionUsage =
      sessionUsage { s with usage := s.completedUsage turn time } := by
  have hq := hs.summed.coherent.completed turn time
  have he : (s.completed turn time).sessionUsage =
      sessionUsage { s with usage := s.completedUsage turn time } :=
    total_ended hs.notedUsage_eq_empty hl hp ht Usage.eq_empty_of_merge rfl rfl
  rw [complete_eq ht, ← he]
  split
  · exact hq.total_beginContinuation _ _ _
  · exact hq.releaseImmediate.total_settle _

/-! ## Every input -/

theorem response_of_live {generation : Nat} (hl : s.isLive generation = true) {turn : ActiveTurn}
    (ht : s.turn = some turn) (time : Option Count) :
    (s.transition (.event ⟨generation, .completed time⟩)).response.foldl Usage.merge s.usage =
      s.completedUsage turn time := by
  have hr : (s.transition (.event ⟨generation, .completed time⟩)).response =
      [.ofResponse (time.getD (Count.ofNat (s.now - turn.startedAt)))] := by
    rw [Transition.response, transition]
    simp only [hl, ht, if_true]
    rfl
  rw [hr]
  rfl

theorem response_of_not_live {generation : Nat} (hl : s.isLive generation = false)
    (time : Option Count) :
    (s.transition (.event ⟨generation, .completed time⟩)).response = [] := by
  rw [Transition.response, transition]
  simp only [hl, Bool.false_eq_true, if_false]

/-- Unless messages are loaded or the stream of the turn writes, the total moves by the response
    time of a stream that completes alone, if a stream that ends has a message. -/
theorem Noted.total_reaction (hs : Noted h s) (hl : s.transcript.Lasting)
    (hp : s.turn ≠ none → s.transcript.inProgress ≠ none) (hr : s.Reaction i r s')
    (hh : ∀ messages, i ≠ .command (.hydrate messages))
    (hw : ¬∃ e, i = .event e ∧ s.isLive e.generation = true ∧ e.event.isTerminal = false) :
    s'.sessionUsage =
      sessionUsage { s with usage := (s.transition i).response.foldl Usage.merge s.usage } := by
  have hc := hs.summed.coherent
  have hq := hc.interrupt.1
  have hn := hs.notedUsage_eq_empty
  have hi := total_interrupt hn hl hp
  cases hr with
  | refuses _ | waits | removes _ _ _ => rfl
  | restsOn _ =>
    rw [abortApprovals_eq]
    rfl
  | ignores hi =>
    cases hi with
    | snapshot => rfl
    | hydrate _ => exact absurd rfl (hh _)
    | @event e hl =>
      obtain ⟨generation, event⟩ := e
      cases event with
      | completed time =>
        rw [response_of_not_live hl]
        rfl
      | _ => rfl
  | writes hv he => exact absurd ⟨_, rfl, hv, he⟩ hw
  | completes hv =>
    obtain ⟨_, turn, ht⟩ := (s.isLive_iff _).1 hv
    rw [response_of_live hv ht, hs.total_complete hl (hp (ht ▸ Option.some_ne_none turn)) ht]
  | fails hv =>
    obtain ⟨_, turn, ht⟩ := (s.isLive_iff _).1 hv
    exact hs.total_fail hl (hp (ht ▸ Option.some_ne_none turn)) ht _
  | starts _ hi _ => exact (hc.quiet (hc.idle_iff.1 hi)).total_beginTurn _
  | @queues content _ _ =>
    by_cases ht : s.turn = none
    · exact ((hc.quiet ht).congr (s.withQueued content) rfl rfl).total_drainQueue
    · have hb : ¬(s.withQueued content).CanDrain := fun hc => ht hc.noTurn
      rw [drainQueue_of_not_canDrain hb]
      rfl
  | restarts _ => exact (hq.releaseImmediate.total_beginTurn _).trans hi
  | @pulls _ entry before after _ _ _ _ =>
    have hc := hc.congr (s.withQueue ⟨before ++ after, true⟩) rfl rfl rfl rfl rfl
    rw [hc.interrupt.1.total_beginTurn]
    exact total_interrupt (s := s.withQueue ⟨before ++ after, true⟩) hn hl hp
  | cancels ht =>
    obtain ⟨turn, ht⟩ := Option.ne_none_iff_exists'.1 ht
    obtain ⟨hq, ha⟩ := quiet_cancelled ht hc.marked
    have hr : (s.cancelled.setPhase .idle).Quiet := (hq.setPhase_idle ha).quiet <| by
      rw [setPhase_eq]
      exact hq.turn
    have hi : s.cancelled.sessionUsage = s.sessionUsage := by
      rw [cancelled, setPhase_eq]
      exact total_interrupt (s := { s.releaseImmediate with phase := _, outbox := _ }) hn hl hp
    rw [hr.total_drainQueue, setPhase_eq]
    exact hi
  | decides _ => exact (hq.total_beginContinuation _ _ _).trans hi
  | @decidesAll decision _ rest _ _ =>
    have hb := hq.congr (s.bulkBegun rest ⟨0, rest.length + 1, decision⟩) rfl rfl
    exact (hb.total_beginContinuation _ _ _).trans hi
  | hydrates _ => exact absurd rfl (hh _)
  | shutsDown =>
    rw [setPhase_eq]
    exact hi

/-- Without a response time it does not move. -/
theorem Noted.total_unmoved (hs : Noted h s) (hl : s.transcript.Lasting)
    (hp : s.turn ≠ none → s.transcript.inProgress ≠ none) (hr : s.Reaction i r s')
    (hh : ∀ messages, i ≠ .command (.hydrate messages))
    (hw : ¬∃ e, i = .event e ∧ s.isLive e.generation = true ∧ e.event.isTerminal = false)
    (ht : (s.transition i).response = []) : s'.sessionUsage = s.sessionUsage := by
  rw [hs.total_reaction hl hp hr hh hw, ht]
  rfl

/-- Accounts may be added in any parts, and nothing is neutral. So a conversation may be accounted
    in parts, what is in flight counts as it does on one more message, and messages are finalized
    and taken back without a move of the total, in every session whose stream, if there is one,
    has a message. Commands do not move it, unless they load messages, and neither does a stream
    that fails. One that completes adds its response time, if it is that of the turn. -/
theorem total_moves_by_reports :
    (∀ a b c : Usage, (a.combine b).combine c = a.combine (b.combine c)) ∧
    (∀ u : Usage, Usage.empty.combine u = u ∧ u.combine .empty = u) ∧
    (∀ ms ns : List Message, Usage.aggregate (ms ++ ns) none =
      (Usage.aggregate ms none).combine (Usage.aggregate ns none)) ∧
    (∀ (ms : List Message) (base u : Usage) (m : Message), m.isAssistant = true →
      m.usage = some (base.combine u) →
      Usage.aggregate ms (some (base.combine u)) = Usage.aggregate (ms ++ [m]) none) ∧
    ∀ (conversationId : String) (interval now : Nat) (ids : Ids) (inputs : List Input),
      let s := (start conversationId interval now ids).run inputs
      (s.turn ≠ none → s.transcript.current? ≠ none) →
      (∀ c, (∀ messages, c ≠ .hydrate messages) →
        (s.react (.command c)).2.sessionUsage = s.sessionUsage) ∧
      (∀ generation message,
        (s.react (.event ⟨generation, .error message⟩)).2.sessionUsage = s.sessionUsage) ∧
      ∀ generation time,
        let i : Input := .event ⟨generation, .completed time⟩
        (s.react i).2.sessionUsage =
          sessionUsage { s with usage := (s.transition i).response.foldl Usage.merge s.usage } := by
  refine ⟨Usage.combine_assoc, fun u => ⟨u.empty_combine, u.combine_empty⟩,
    Usage.aggregate_append, fun ms base u m ha hu => ?_, ?_⟩
  · rw [Usage.aggregate_concat ha, hu, Option.getD_some]
  · intro conversationId interval now ids inputs s hc
    have hp (ht : s.turn ≠ none) : s.transcript.inProgress ≠ none :=
      fun h => hc ht (congrArg (Option.map InProgress.message) h)
    have hs : Noted _ s := noted_run conversationId interval now ids inputs
    have hl : s.transcript.Lasting := (lasting_run conversationId interval now ids inputs).2
    refine ⟨fun c hc => ?_, fun generation message => ?_, fun generation time => ?_⟩
    · refine hs.total_unmoved hl hp (s.reaction (.command c))
        (fun messages h => hc messages (Input.command.inj h)) ?_ rfl
      rintro ⟨_, h, _⟩
      cases h
    · refine hs.total_unmoved hl hp (s.reaction (.event ⟨generation, .error message⟩))
        (fun _ h => Input.noConfusion h) ?_ rfl
      rintro ⟨_, h, _, he⟩
      obtain rfl := Input.event.inj h
      exact Bool.noConfusion he
    · refine hs.total_reaction hl hp (s.reaction (.event ⟨generation, .completed time⟩))
        (fun _ h => Input.noConfusion h) ?_
      rintro ⟨_, h, _, he⟩
      obtain rfl := Input.event.inj h
      exact Bool.noConfusion he

/-- A call is approved, whose message is taken back with the account noted on it. The stream that
    goes on with the message reports more, and is cancelled, or fails. -/
theorem total_moves_by_reports_resumed :
    let call : ToolUpdate := { callId := "c1", requiresApproval := some true }
    let inputs : List Input := [.command (.submit "go"), .event ⟨1, .toolsPending [call]⟩,
      .event ⟨1, .usage (.counters 10 5 15 0) .main⟩, .event ⟨1, .completed none⟩,
      .command (.decideSingle "c1" true none),
      .event ⟨2, .usage (.counters 2 1 3 0) .main⟩]
    let s := (start "c" 100 0 ⟨toString, 0⟩).run inputs
    (s.turn ≠ none ∧ s.transcript.current? ≠ none) ∧ Counter.total.read s.sessionUsage = 18 ∧
      (s.react (.command .cancel)).2.sessionUsage = s.sessionUsage ∧
      (s.react (.event ⟨2, .error "lost"⟩)).2.sessionUsage = s.sessionUsage := by
  intro call inputs s
  have ht : s.turn ≠ none := Option.isSome_iff_ne_none.1 (by decide)
  have hp : s.transcript.current? ≠ none := Option.isSome_iff_ne_none.1 (by decide)
  obtain ⟨_, _, _, _, hm⟩ := total_moves_by_reports
  obtain ⟨hc, he, _⟩ := hm "c" 100 0 ⟨toString, 0⟩ inputs fun _ => hp
  exact ⟨⟨ht, hp⟩, by decide, hc .cancel (fun _ h => Command.noConfusion h), he 2 "lost"⟩

end Session

end Dialogue
