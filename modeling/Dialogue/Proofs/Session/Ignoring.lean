import Dialogue.Proofs.Message
import Dialogue.Proofs.Session.Streams

/-!
# Events that nothing comes of

An event may be stale, since its stream is not the active one, or say nothing that counts:
a report about another model call, no text, no calls, or what became of a call that the
message in progress does not have (`Session.Ineffective`). Such an event is invisible. A
history without it is the same, apart from its own entry, which is empty.

* `handle_of_ineffective`: an ineffective event leaves the session as it was;
* `Logged.not_isLive`: once a stream ended or was given up, every event of it is stale,
  whatever comes later, since no stream gets its generation again;
* `ineffective_events_invisible`: so no later reply, state or effect tells whether such an
  event came.
-/

namespace Dialogue

namespace Session

open StreamLog

variable {s : Session}

/-- Nothing comes of an event: it is not of the stream of the turn, or it says nothing that
    counts. Only some news of a call may be the first word on it. -/
inductive Ineffective (s : Session) : Envelope → Prop
  | otherStream {e : Envelope} : e.generation ≠ s.generation → Ineffective s e
  | noTurn {e : Envelope} : s.turn = none → Ineffective s e
  | otherSource {generation : Nat} {report : Usage} {source : UsageSource} : source ≠ .main →
      Ineffective s ⟨generation, .usage report source⟩
  | noText {generation : Nat} : Ineffective s ⟨generation, .token ""⟩
  | noCalls {generation : Nat} : Ineffective s ⟨generation, .toolsPending []⟩
  | unknownCall {generation : Nat} {kind : ToolEvent} {u : ToolUpdate} :
      kind = .result ∨ kind = .approved →
      (∀ m ∈ s.transcript.current?, ∀ e ∈ m.executions, e.callId ≠ u.callId) →
      Ineffective s ⟨generation, .tool kind u⟩

/-- An event of another stream is stale, and so is every event while there is no turn. -/
theorem not_isLive_iff (s : Session) (generation : Nat) :
    s.isLive generation = false ↔ generation ≠ s.generation ∨ s.turn = none := by
  rw [isLive, Bool.and_eq_false_iff, beq_eq_false_iff_ne, Option.isSome_eq_false_iff,
    Option.isNone_iff_eq_none]

/-- What became of a call is dropped unless the message in progress has the call. -/
theorem applyTool_of_unknown {kind : ToolEvent} (hk : kind.createsSegment = false)
    {u : ToolUpdate} (hu : ∀ m ∈ s.transcript.current?, ∀ e ∈ m.executions, e.callId ≠ u.callId) :
    s.applyTool kind u = s := by
  rw [applyTool, if_neg (by rw [hk]; exact Bool.noConfusion)]
  cases hm : s.transcript.currentOf? s.generation with
  | none => rfl
  | some m =>
    obtain ⟨p, hp, rfl⟩ := Transcript.inProgress_of_currentOf? hm
    have hc : p.message ∈ s.transcript.current? := by
      rw [Transcript.current?, hp]
      rfl
    have hn := Segment.mergeCall?_eq_none (hu p.message hc)
    simp only [Message.applyUpdate, hn]
    rfl

theorem handle_of_ineffective {e : Envelope} (h : s.Ineffective e) : s.handle e = s := by
  cases hl : s.isLive e.generation with
  | false => exact handle_of_not_live hl
  | true =>
    rw [handle_of_live hl]
    cases h with
    | otherStream hg =>
      rw [(s.not_isLive_iff _).2 (.inl hg)] at hl
      exact nomatch hl
    | noTurn ht =>
      rw [(s.not_isLive_iff _).2 (.inr ht)] at hl
      exact nomatch hl
    | otherSource hs => exact if_neg hs
    | noText => rw [apply, appendText, if_pos rfl]
    | noCalls => rfl
    | unknownCall hk hu => exact applyTool_of_unknown (by rcases hk with rfl | rfl <;> rfl) hu

/-- A stream that ended or was given up is not that of the turn, so its events are stale. -/
theorem Logged.not_isLive {h : List Transition} (hs : Logged h s) {g : Nat}
    (hg : g ∈ closed (h.flatMap Transition.marks)) : s.isLive g = false := by
  rw [not_isLive_iff]
  by_cases he : g = s.generation
  · right
    cases ht : s.turn with
    | none => rfl
    | some turn =>
      have hn := (hs.accounted.of_turn ht).notMem_closed
      rw [hs.coherent.generation turn ht, ← he] at hn
      exact absurd hg hn
  · exact .inl he

theorem streamLog_append (s : Session) (inputs later : List Input) :
    s.streamLog (inputs ++ later) = s.streamLog inputs ++ (s.run inputs).streamLog later := by
  rw [streamLog, history_append, List.flatMap_append, streamLog, streamLog]

/-- An ineffective event adds an empty entry to the history, and changes no other. -/
theorem history_of_ineffective {e : Envelope} (h : s.Ineffective e) (later : List Input) :
    s.history (.event e :: later) = ⟨s, .event e, none, []⟩ :: s.history later := by
  have hs : (s.react (.event e)).2 = s := handle_of_ineffective h
  have ht : s.transition (.event e) = ⟨s, .event e, none, []⟩ := by
    rw [transition, hs, List.drop_length]
    rfl
  rw [history, hs, ht]

/-- Two runs, with an event and without it. Once a stream was given up or its terminal event
    was applied, every event of it is dropped, whatever inputs come in between, also those
    that start other turns. And wherever a run has an event that is stale or says nothing
    that counts, the run without it ends in the same session, and its history is the same
    but for the entry of the event: no reply, no state and no effect is another one. -/
theorem ineffective_events_invisible (conversationId : String) (interval now : Nat) (ids : Ids)
    (inputs later : List Input) (e : Envelope) :
    let fresh := start conversationId interval now ids
    let s := fresh.run inputs
    (e.generation ∈ closed (fresh.streamLog inputs) →
      (s.run later).isLive e.generation = false ∧ (s.run later).handle e = s.run later) ∧
    (s.Ineffective e →
      s.run (.event e :: later) = s.run later ∧
        fresh.history (inputs ++ .event e :: later) =
          fresh.history inputs ++ ⟨s, .event e, none, []⟩ :: s.history later ∧
        fresh.history (inputs ++ later) = fresh.history inputs ++ s.history later) := by
  intro fresh s
  refine ⟨fun hg => ?_, fun h => ⟨?_, ?_, history_append _ _ _⟩⟩
  · have hl := logged_run conversationId interval now ids (inputs ++ later)
    have hn : (fresh.run (inputs ++ later)).isLive e.generation = false := by
      refine hl.not_isLive (?_ : _ ∈ closed (fresh.streamLog (inputs ++ later)))
      rw [streamLog_append, closed_append]
      exact List.mem_append_left _ hg
    rw [run_append] at hn
    exact ⟨hn, handle_of_not_live hn⟩
  · exact congrArg (run · later) (handle_of_ineffective h)
  · rw [history_append, history_of_ineffective h]

/-- A turn is cancelled and another one starts. That the first one failed comes late, and
    nothing comes of it. -/
theorem ineffective_events_invisible_cancelled :
    let fresh := start "c" 100 0 ⟨toString, 0⟩
    let inputs : List Input := [.command (.submit "first"), .event ⟨1, .token "x"⟩,
      .command .cancel]
    let later : List Input := [.command (.submit "second"), .event ⟨3, .token "y"⟩]
    let s := fresh.run inputs
    (s.run later).phase = .streaming ∧ 1 ∈ closed (fresh.streamLog inputs) ∧
      (s.run later).handle ⟨1, .error "aborted"⟩ = s.run later ∧
      s.run (.event ⟨1, .error "aborted"⟩ :: later) = s.run later := by
  intro fresh inputs later s
  have hc : 1 ∈ closed (fresh.streamLog inputs) := by decide
  have hg : (1 : Nat) ≠ s.generation := by decide
  obtain ⟨hl, hr⟩ := ineffective_events_invisible "c" 100 0 ⟨toString, 0⟩ inputs later
    ⟨1, .error "aborted"⟩
  exact ⟨by decide, hc, (hl hc).2, (hr (.otherStream hg)).1⟩

end Session

end Dialogue
