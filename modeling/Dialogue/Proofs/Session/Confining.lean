import Dialogue.Proofs.Session.Inscribing
import Dialogue.Proofs.Session.LastTick

/-!
# What an event leaves alone

An event that counts and is not terminal changes the message in progress, the account of the
stream and when it was last told, and the run of the turn, and nothing else.

* `Message.write_eq`: of a message, writing changes the content and the segments;
* `Session.Rewrites`, `rewrites_apply`: so of the message in progress an event changes these and
  the account, and a message that it begins has everything else from the session;
* `Continues.eq`: what a stream can change of a session, as an equation;
* `live_event_changes`: what an event changes, for every session that some inputs lead to.
-/

namespace Dialogue

/-- The run that an event says the server accepted. -/
def TurnEvent.runId? : TurnEvent → Option String
  | .ready runId => some runId
  | _ => none

namespace Message

/-- The account of a message is not written. -/
theorem usage_write (m : Message) (ids : Ids) (w : Writing) : (m.write ids w).usage = m.usage := by
  cases w with
  | text words => exact m.usage_appendText ids words
  | pending us => exact m.usage_applyPending us
  | update u create => exact m.usage_applyUpdate u create

/-- Of a message, writing changes the content and the segments. -/
theorem write_eq (m : Message) (ids : Ids) (w : Writing) :
    m.write ids w = { m with
      content := (m.write ids w).content
      segments := (m.write ids w).segments } := by
  have he := m.extends_write ids w
  have hs := m.streaming_write ids w
  have hu := m.usage_write ids w
  generalize m.write ids w = m' at he hs hu ⊢
  obtain ⟨id, role, content, createdAt, streaming, segments, usage⟩ := m'
  rw [← he.id, ← he.role, ← he.createdAt, ← hs, ← hu]

end Message

namespace Session

open Effect

variable {s s' : Session} {e : TurnEvent}

/-! ## The message in progress -/

/-- What an event may make of the message in progress: the same one, with another content,
    other segments and another account, or one that begins with the stream. -/
structure Rewrites (s : Session) (inProgress : Option InProgress) : Prop where
  goesOn : ∀ p ∈ s.transcript.inProgress, ∃ content segments usage,
    inProgress = some { p with message := { p.message with content, segments, usage } }
  begins : s.transcript.inProgress = none → ∀ p ∈ inProgress, ∃ content segments,
    p = ⟨s.generation, { Message.beginAssistant s.ids.next s.now with content, segments }, false⟩

theorem rewrites_self (s : Session) : s.Rewrites s.transcript.inProgress where
  goesOn p hp := ⟨p.message.content, p.message.segments, p.message.usage, hp⟩
  begins hn p hp := absurd (hn ▸ hp) (Option.not_mem_none p)

theorem rewrites_noted (s : Session) (usage : Option Usage) :
    s.Rewrites (s.transcript.noted usage).inProgress where
  goesOn p hp := ⟨p.message.content, p.message.segments, usage, by
    rw [Transcript.noted, Option.mem_def.1 hp]
    rfl⟩
  begins hn p hp := by
    rw [Transcript.noted_of_none hn, hn] at hp
    exact absurd hp (Option.not_mem_none p)

theorem rewrites_write (s : Session) (ids : Ids) (w : Writing) :
    s.Rewrites (some { s.underWay with message := s.underWay.message.write ids w }) := by
  have hw := s.underWay.message.write_eq ids w
  constructor
  · intro p hp
    rw [underWay, Option.mem_def.1 hp, Option.getD_some] at hw ⊢
    exact ⟨_, _, p.message.usage, by rw [hw]⟩
  · intro hn p hp
    rw [underWay, hn, Option.getD_none] at hw hp
    exact ⟨_, _, by rw [← Option.some.inj hp, hw]⟩

/-- An event changes the transcript in nothing but the message in progress. -/
theorem rewrites_apply (hb : s.transcript.BelongsTo s.generation) (he : e.isTerminal = false) :
    ∃ inProgress, (s.apply e).transcript = { s.transcript with inProgress } ∧
      s.Rewrites inProgress := by
  cases inscribes_apply hb he with
  | nothing _ hx => exact ⟨s.transcript.inProgress, hx, s.rewrites_self⟩
  | @notes usage _ hx => exact ⟨_, hx, s.rewrites_noted usage⟩
  | @writes w ids _ hx => exact ⟨_, hx, s.rewrites_write ids w⟩

/-! ## The turn and the throttle -/

theorem turn_updateCurrent (s : Session) (m : Message) :
    (s.updateCurrent m).turn = s.turn ∧ (s.updateCurrent m).throttle = s.throttle := by
  rw [updateCurrent, tellCurrent_eq]
  exact ⟨rfl, rfl⟩

/-- What is written to a message leaves the turn and the throttle alone. -/
theorem turn_writing (s : Session) (hw : e.writing? ≠ none) :
    (s.apply e).turn = s.turn ∧ (s.apply e).throttle = s.throttle := by
  cases e with
  | token words =>
    rw [apply, appendText]
    split
    · exact ⟨rfl, rfl⟩
    · exact turn_updateCurrent _ _
  | toolsPending us =>
    rw [apply, applyPending]
    split
    · exact ⟨rfl, rfl⟩
    · simp only
      split
      · exact turn_updateCurrent _ _
      · exact ⟨rfl, rfl⟩
  | tool kind u =>
    rw [apply, applyTool]
    split
    · simp only
      split
      · exact turn_updateCurrent _ _
      · exact ⟨rfl, rfl⟩
    · split
      · exact ⟨rfl, rfl⟩
      · simp only
        split
        · exact turn_updateCurrent _ _
        · exact ⟨rfl, rfl⟩
  | _ => exact absurd rfl hw

/-- The turn takes its run from the event, if that has one. -/
theorem turn_apply (s : Session) (he : e.isTerminal = false) :
    (s.apply e).turn = s.turn.map fun turn =>
      { turn with runId := e.runId? <|> turn.runId } := by
  have hid : s.turn = s.turn.map fun turn => { turn with runId := none <|> turn.runId } :=
    Option.map_id'.symm
  cases e with
  | ready runId => rfl
  | token words => exact (s.turn_writing (e := .token words) (Option.some_ne_none _)).1.trans hid
  | toolsPending us =>
    exact (s.turn_writing (e := .toolsPending us) (Option.some_ne_none _)).1.trans hid
  | tool kind u => exact (s.turn_writing (e := .tool kind u) (Option.some_ne_none _)).1.trans hid
  | usage report source =>
    cases source with
    | main => exact (congrArg Session.turn (recordUsage_eq s report)).trans hid
    | turnCheck | other => exact hid
  | firstToken time => exact (congrArg Session.turn (recordUsage_eq s _)).trans hid
  | completed time | error message => exact Bool.noConfusion he

/-- The throttle is asked when something is added to the account. -/
theorem throttle_apply (s : Session) (he : e.isTerminal = false) :
    (s.apply e).throttle = if e.delta?.isSome then (s.throttle.ask s.now).2 else s.throttle := by
  cases e with
  | ready runId => rfl
  | token words => exact (s.turn_writing (e := .token words) (Option.some_ne_none _)).2
  | toolsPending us => exact (s.turn_writing (e := .toolsPending us) (Option.some_ne_none _)).2
  | tool kind u => exact (s.turn_writing (e := .tool kind u) (Option.some_ne_none _)).2
  | usage report source =>
    cases source with
    | main => exact congrArg Session.throttle (recordUsage_eq s report)
    | turnCheck | other => rfl
  | firstToken time => exact congrArg Session.throttle (recordUsage_eq s _)
  | completed time | error message => exact Bool.noConfusion he

/-! ## Everything else -/

/-- A session later in the same stream has everything else from the one before. -/
theorem Continues.eq (h : s.Continues s') : ∃ us, s' = { s with
    turn := s'.turn
    transcript := s'.transcript
    usage := s'.usage
    throttle := s'.throttle
    ids := s'.ids
    outbox := s.outbox ++ tellings us } := by
  obtain ⟨us, ho⟩ := h.told
  refine ⟨us, ?_⟩
  rw [← ho, ← h.conversationId, ← h.phase, ← h.generation, ← h.approvals, ← h.queue,
    ← h.lastError, ← h.now]

/-- Whatever has happened to a session, an event that counts and is not terminal changes nothing
    of it but this:

    * the turn takes its run from the event, if that has one, and keeps its kind, its stream,
      when it started, and what its message had used before;
    * what the event reports is merged into what the stream has used, and the throttle is asked
      then;
    * the message in progress gets another content, other segments and another account. It keeps
      its identifier, its author, when it was created, and that it is streaming, and stays with
      its generation. If there is none, the answer of the stream may begin;
    * identifiers are handed out, and updates are told.

    The finalized messages, the queue and its latch, the bulk decision, the phase, the generation
    and the last error are those from before. -/
theorem live_event_changes (h : s.Reachable) {e : Envelope} (hl : s.isLive e.generation = true)
    (he : e.event.isTerminal = false) : ∃ inProgress ids us,
    s.handle e = { s with
      turn := s.turn.map fun turn => { turn with runId := e.event.runId? <|> turn.runId }
      usage := e.event.delta?.toList.foldl Usage.merge s.usage
      throttle := if e.event.delta?.isSome then (s.throttle.ask s.now).2 else s.throttle
      transcript := { s.transcript with inProgress }
      ids
      outbox := s.outbox ++ tellings us } ∧
    s.ids.IsPrefixOf ids ∧
    (∀ p ∈ s.transcript.inProgress, ∃ content segments usage,
      inProgress = some { p with message := { p.message with content, segments, usage } }) ∧
    (s.transcript.inProgress = none → ∀ p ∈ inProgress, ∃ content segments,
      let message := { Message.beginAssistant s.ids.next s.now with content, segments }
      p = ⟨s.generation, message, false⟩) := by
  have hc := continues_apply s he
  obtain ⟨inProgress, hx, hr⟩ := rewrites_apply (coherent_of_reachable h).belongsTo he
  obtain ⟨us, heq⟩ := hc.eq
  refine ⟨inProgress, (s.apply e.event).ids, us, ?_, hc.ids, hr.goesOn, hr.begins⟩
  rw [handle_of_live hl, heq, turn_apply s he, usage_apply s he, throttle_apply s he, hx]

/-- News of a call that comes after some text changes the message of that text alone. -/
theorem live_event_changes_news :
    let inputs : List Input := [.command (.submit "go"), .event ⟨1, .ready "r"⟩,
      .event ⟨1, .token "let me see"⟩]
    let s := (start "c" 100 0 ⟨toString, 0⟩).run inputs
    let e : Envelope := ⟨1, .tool .executing { callId := "c1", name := some "search" }⟩
    s.Reachable ∧ s.isLive e.generation = true ∧ e.event.isTerminal = false ∧
      (s.handle e).turn = s.turn ∧
      (s.handle e).transcript.finalized = s.transcript.finalized ∧
      ∃ p content segments usage, s.transcript.inProgress = some p ∧
        (s.handle e).transcript.inProgress =
          some { p with message := { p.message with content, segments, usage } } := by
  intro inputs s e
  have hs : s.Reachable := ⟨"c", 100, 0, ⟨toString, 0⟩, inputs, rfl⟩
  have hl : s.isLive e.generation = true := by decide
  obtain ⟨inProgress, ids, us, heq, _, hgo, _⟩ := live_event_changes hs hl rfl
  have hp : s.transcript.inProgress.isSome = true := by decide
  obtain ⟨p, hp⟩ := Option.isSome_iff_exists.1 hp
  obtain ⟨content, segments, usage, hp'⟩ := hgo p hp
  -- The event has no run.
  have ht : (s.turn.map fun turn => { turn with runId := none <|> turn.runId }) = s.turn :=
    Option.map_id'
  rw [heq]
  exact ⟨hs, hl, rfl, ht, rfl, p, content, segments, usage, hp, hp'⟩

end Session

end Dialogue
