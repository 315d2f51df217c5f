import Dialogue.Proofs.Queue
import Dialogue.Proofs.Session.Operations

/-!
# What a session does with an input

A session takes an input in one of a few ways (`Session.Reaction`): it refuses a
command, it ignores the input, or it does one thing that the input asks for, under
the conditions under which it does so. What holds of every reaction is proved by
cases on it, without opening the commands.

The main statement is that these are all (`Session.reaction`).
-/

namespace Dialogue

theorem Phase.isBusy_eq_false_iff (p : Phase) : p.isBusy = false ↔ p = .idle := by
  cases p <;> decide

namespace Session

/-- The live events are those of the stream of the turn. -/
theorem isLive_iff (s : Session) (generation : Nat) :
    s.isLive generation = true ↔ generation = s.generation ∧ ∃ turn, s.turn = some turn := by
  rw [isLive, Bool.and_eq_true, beq_iff_eq, Option.isSome_iff_exists]

theorem handle_of_live {s : Session} {e : Envelope} (hl : s.isLive e.generation = true) :
    s.handle e = s.apply e.event :=
  if_pos hl

theorem react_of_live {s : Session} {e : Envelope} (hl : s.isLive e.generation = true) :
    (s.react (.event e)).2 = s.apply e.event :=
  handle_of_live hl

theorem handle_of_not_live {s : Session} {e : Envelope} (hl : s.isLive e.generation = false) :
    s.handle e = s :=
  if_neg (by rw [hl]; exact Bool.noConfusion)

/-- Stored messages only come into a session that has not begun. -/
theorem canHydrate_iff (s : Session) : s.canHydrate = true ↔
    s.phase = .idle ∧ s.turn = none ∧ s.transcript = {} := by
  rw [canHydrate, Bool.and_eq_true, Bool.and_eq_true, Bool.not_eq_true', Phase.isBusy_eq_false_iff,
    Option.isNone_iff_eq_none, and_assoc, Transcript.isEmpty_iff]

/-- Input as it is queued. -/
def queuedInput (s : Session) (content : String) : QueuedInput :=
  ⟨s.ids.next, content, s.now⟩

/-- The session with input at the end of its queue. -/
def withQueued (s : Session) (content : String) : Session :=
  withQueue { s with ids := s.ids.advance } (s.queue.enqueue (s.queuedInput content))

/-- The session about to go idle after its turn was cancelled. -/
def cancelled (s : Session) : Session :=
  (s.releaseImmediate.setPhase .cancelling).interrupt

/-- The session about to start the first call of a bulk decision. -/
def bulkBegun (s : Session) (rest : List String) (progress : Progress) : Session :=
  tell { s.interrupt with approvals := ⟨rest, some progress⟩ } (.approvalProgress (some progress))

/-- The session with stored messages in its transcript, each of them told. -/
def hydrated (s : Session) (messages : List Message) : Session :=
  { s with
    transcript := { finalized := messages.map .settled }
    outbox := s.outbox ++
      Effect.tellings ((messages.map .settled).map .messageFinalized) }

/-- A command is refused, and why: blank text, an entry that is not queued or must
    wait for another one that is on its way, a bulk decision that runs already or
    would decide nothing. -/
inductive Refuses (s : Session) : Command → Error → Prop
  | blankSubmit {content : String} : Text.isBlank content = true →
      Refuses s (.submit content) .blankInput
  | blankStart {content : String} : Text.isBlank content = true →
      Refuses s (.startTurn content) .blankInput
  | blankDecision {callId : String} {approve : Bool} {reason : Option String} :
      Text.isBlank callId = true → Refuses s (.decideSingle callId approve reason) .blankInput
  | latched {id : String} : s.queue.immediate = true →
      Refuses s (.submitNow id) .immediateInFlight
  | notPulled {id : String} : s.queue.immediate = false → (∀ e ∈ s.queue.entries, e.id ≠ id) →
      Refuses s (.submitNow id) (.noSuchEntry id)
  | notRemoved {id : String} : (∀ e ∈ s.queue.entries, e.id ≠ id) →
      Refuses s (.removeQueued id) (.noSuchEntry id)
  | bulkRunning {decision : Decision} : s.approvals.progress ≠ none →
      Refuses s (.decideBulk decision) .bulkRunning
  | nothingApprovable {decision : Decision} : s.approvals.progress = none → s.approvable = [] →
      Refuses s (.decideBulk decision) .nothingApprovable

/-- An input changes nothing, although it is not refused: what is only looked at,
    stored messages that come too late, and an event that does not count. -/
inductive Ignores (s : Session) : Input → Option (Except Error Reply) → Prop
  | snapshot : Ignores s (.command .snapshot) (some (.ok (.snapshot s.snapshot)))
  | hydrate {messages : List Message} : s.canHydrate = false →
      Ignores s (.command (.hydrate messages)) (some (.ok (.flag false)))
  | event {e : Envelope} : s.isLive e.generation = false → Ignores s (.event e) none

/-- How a session takes an input, with the reply and the session that follows. -/
inductive Reaction (s : Session) : Input → Option (Except Error Reply) → Session → Prop
  | refuses {c : Command} {e : Error} : s.Refuses c e → Reaction s (.command c) (some (.error e)) s
  | ignores {i : Input} {r : Option (Except Error Reply)} : s.Ignores i r → Reaction s i r s
  | waits {time : Nat} : Reaction s (.elapse time) none (s.elapse time)
  | writes {e : Envelope} : s.isLive e.generation = true → e.event.isTerminal = false →
      Reaction s (.event e) none (s.apply e.event)
  | completes {generation : Nat} {time : Option Count} : s.isLive generation = true →
      Reaction s (.event ⟨generation, .completed time⟩) none (s.complete time)
  | fails {generation : Nat} {message : String} : s.isLive generation = true →
      Reaction s (.event ⟨generation, .error message⟩) none (s.fail message)
  | starts {content : String} : Text.isBlank content = false → s.phase = .idle →
      s.queue.entries = [] →
      Reaction s (.command (.submit content)) (some (.ok (.submitted .started)))
        (s.beginTurn content)
  | queues {content : String} : Text.isBlank content = false →
      (s.phase ≠ .idle ∨ s.queue.entries ≠ []) →
      Reaction s (.command (.submit content))
        (some (.ok (.submitted (.queued (s.queuedInput content)))))
        (s.withQueued content).drainQueue
  | restarts {content : String} : Text.isBlank content = false →
      Reaction s (.command (.startTurn content)) (some (.ok .done))
        (s.interrupt.releaseImmediate.beginTurn content)
  | pulls {id : String} {entry : QueuedInput} {before after : List QueuedInput} :
      s.queue.immediate = false → s.queue.entries = before ++ entry :: after → entry.id = id →
      (∀ e ∈ before, e.id ≠ id) →
      Reaction s (.command (.submitNow id)) (some (.ok .done))
        ((s.withQueue ⟨before ++ after, true⟩).interrupt.beginTurn entry.content)
  | removes {id : String} {entry : QueuedInput} {before after : List QueuedInput} :
      s.queue.entries = before ++ entry :: after → entry.id = id → (∀ e ∈ before, e.id ≠ id) →
      Reaction s (.command (.removeQueued id)) (some (.ok (.entry entry)))
        (s.withQueue { s.queue with entries := before ++ after })
  | restsOn : s.turn = none →
      Reaction s (.command .cancel) (some (.ok (.flag false))) s.releaseImmediate.abortApprovals
  | cancels : s.turn ≠ none →
      Reaction s (.command .cancel) (some (.ok (.flag true)))
        (s.cancelled.setPhase .idle).drainQueue
  | decides {callId : String} {approve : Bool} {reason : Option String} :
      Text.isBlank callId = false →
      Reaction s (.command (.decideSingle callId approve reason)) (some (.ok .done))
        (s.interrupt.beginContinuation callId (.ofApprove approve) reason)
  | decidesAll {decision : Decision} {first : String} {rest : List String} :
      s.approvals.progress = none → s.approvable.map (·.callId) = first :: rest →
      Reaction s (.command (.decideBulk decision))
        (some (.ok (.progress ⟨0, rest.length + 1, decision⟩)))
        ((s.bulkBegun rest ⟨0, rest.length + 1, decision⟩).beginContinuation first decision none)
  | hydrates {messages : List Message} : s.canHydrate = true →
      Reaction s (.command (.hydrate messages)) (some (.ok (.flag true))) (s.hydrated messages)
  | shutsDown : Reaction s (.command .shutdown) (some (.ok .done)) (s.interrupt.setPhase .idle)

/-! ## Every input has a reaction -/

/-- An entry queued while the session is busy, or behind others, is still queued
    when the queue has been drained. -/
theorem queued_of_drainQueue (s : Session) (content : String)
    (h : s.phase ≠ .idle ∨ s.queue.entries ≠ []) :
    (s.withQueued content).drainQueue.queue.entries.any (·.id == (s.queuedInput content).id) =
      true := by
  have hq : (s.withQueued content).queue.entries = s.queue.entries ++ [s.queuedInput content] := rfl
  rw [List.any_eq_true]
  refine ⟨s.queuedInput content, ?_, beq_self_eq_true _⟩
  rcases (s.withQueued content).drainQueue_cases with ⟨hd, _⟩ | ⟨entry, rest, hc, he, hd⟩
  · rw [hd, hq]
    exact List.mem_append_right _ List.mem_cons_self
  · have hr : (s.withQueued content).drainQueue.queue.entries = rest := by
      rw [hd, beginTurn_eq, openStream_eq]
      rfl
    rw [hr]
    -- The oldest entry is another one, since the queue was not empty before.
    rcases h with h | h
    · exact absurd hc.idle h
    · rw [hq] at he
      cases hs : s.queue.entries with
      | nil => exact absurd hs h
      | cons e es =>
        rw [hs] at he
        obtain ⟨_, rfl⟩ := List.cons.inj he
        exact List.mem_append_right _ List.mem_cons_self

theorem submit_of_blank {s : Session} {content : String} (hb : Text.isBlank content = true) :
    s.submit content = (.error .blankInput, s) :=
  if_pos hb

/-- Input starts at once in an idle session in which nothing waits. -/
theorem submit_started {s : Session} {content : String} (hb : Text.isBlank content = false)
    (hi : s.phase = .idle) (hq : s.queue.entries = []) :
    s.submit content = (.ok .started, s.beginTurn content) := by
  have hc : (!s.phase.isBusy && s.queue.isEmpty) = true := by
    rw [(Phase.isBusy_eq_false_iff _).2 hi, InputQueue.isEmpty, hq]
    rfl
  rw [submit, if_neg (by rw [hb]; exact Bool.noConfusion), if_pos hc]

/-- Otherwise it is queued. -/
theorem submit_queued {s : Session} {content : String} (hb : Text.isBlank content = false)
    (h : s.phase ≠ .idle ∨ s.queue.entries ≠ []) :
    s.submit content =
      (.ok (.queued (s.queuedInput content)), (s.withQueued content).drainQueue) := by
  have hc : (!s.phase.isBusy && s.queue.isEmpty) = false := by
    rw [Bool.and_eq_false_iff, Bool.not_eq_false', InputQueue.isEmpty, List.isEmpty_eq_false_iff]
    exact h.imp_left fun hi => Bool.not_eq_false _ ▸ mt (Phase.isBusy_eq_false_iff _).1 hi
  have hany := queued_of_drainQueue s content h
  rw [submit, if_neg (by rw [hb]; exact Bool.noConfusion),
    if_neg (by rw [hc]; exact Bool.noConfusion)]
  exact if_pos hany

theorem reaction_submit (s : Session) (content : String) :
    s.Reaction (.command (.submit content)) (some ((s.submit content).1.map .submitted))
      (s.submit content).2 := by
  cases hb : Text.isBlank content with
  | true =>
    rw [submit_of_blank hb]
    exact .refuses (.blankSubmit hb)
  | false =>
    by_cases h : s.phase = .idle ∧ s.queue.entries = []
    · rw [submit_started hb h.1 h.2]
      exact .starts hb h.1 h.2
    · have hn : s.phase ≠ .idle ∨ s.queue.entries ≠ [] := Decidable.not_and_iff_not_or_not.1 h
      rw [submit_queued hb hn]
      exact .queues hb hn

theorem reaction_startTurn (s : Session) (content : String) :
    s.Reaction (.command (.startTurn content)) (some ((s.startTurn content).1.map fun _ => .done))
      (s.startTurn content).2 := by
  rw [startTurn]
  cases hb : Text.isBlank content with
  | true => exact .refuses (.blankStart hb)
  | false => exact .restarts hb

/-- An entry that cannot be removed is not queued. -/
theorem ne_of_remove?_eq_none {q : InputQueue} {id : String} (h : q.remove? id = none) :
    ∀ e ∈ q.entries, e.id ≠ id := by
  intro e he hid
  have hn := List.find?_eq_none.1 (Option.map_eq_none_iff.1 h) e he
  exact hn (beq_iff_eq.2 hid)

theorem reaction_submitNow (s : Session) (id : String) :
    s.Reaction (.command (.submitNow id)) (some ((s.submitNow id).1.map fun _ => .done))
      (s.submitNow id).2 := by
  rw [submitNow]
  cases ht : s.queue.takeImmediate id with
  | ok taken =>
    obtain ⟨entry, queue⟩ := taken
    obtain ⟨hi, before, after, hq, hid, hb, rfl⟩ := InputQueue.of_takeImmediate ht
    exact .pulls hi hq hid hb
  | error e =>
    -- Either the latch is held, or there is no such entry.
    rw [InputQueue.takeImmediate] at ht
    cases hi : s.queue.immediate with
    | true =>
      rw [if_pos hi] at ht
      obtain rfl := Except.error.inj ht
      exact .refuses (.latched hi)
    | false =>
      rw [if_neg (by rw [hi]; exact Bool.noConfusion)] at ht
      cases hr : s.queue.remove? id with
      | none =>
        rw [hr] at ht
        obtain rfl := Except.error.inj ht
        exact .refuses (.notPulled hi (ne_of_remove?_eq_none hr))
      | some taken =>
        rw [hr] at ht
        exact nomatch ht

theorem reaction_removeQueued (s : Session) (id : String) :
    s.Reaction (.command (.removeQueued id)) (some ((s.removeQueued id).1.map .entry))
      (s.removeQueued id).2 := by
  rw [removeQueued]
  cases hr : s.queue.remove? id with
  | none => exact .refuses (.notRemoved (ne_of_remove?_eq_none hr))
  | some taken =>
    obtain ⟨entry, queue⟩ := taken
    obtain ⟨before, after, hq, hid, hb, rfl⟩ := InputQueue.of_remove? hr
    exact .removes hq hid hb

theorem reaction_cancel (s : Session) :
    s.Reaction (.command .cancel) (some (.ok (.flag s.cancel.1))) s.cancel.2 := by
  rw [cancel]
  cases ht : s.turn with
  | none =>
    have h : s.releaseImmediate.turn.isNone = true := by rw [releaseImmediate, ht]; rfl
    simp only [h, if_true]
    exact .restsOn ht
  | some turn =>
    have h : s.releaseImmediate.turn.isNone = false := by rw [releaseImmediate, ht]; rfl
    simp only [h, Bool.false_eq_true, if_false]
    exact .cancels (by rw [ht]; exact Option.some_ne_none turn)

theorem reaction_decideSingle (s : Session) (callId : String) (approve : Bool)
    (reason : Option String) :
    s.Reaction (.command (.decideSingle callId approve reason))
      (some ((s.decideSingle callId approve reason).1.map fun _ => .done))
      (s.decideSingle callId approve reason).2 := by
  rw [decideSingle]
  cases hb : Text.isBlank callId with
  | true => exact .refuses (.blankDecision hb)
  | false => exact .decides hb

theorem reaction_decideBulk (s : Session) (decision : Decision) :
    s.Reaction (.command (.decideBulk decision)) (some ((s.decideBulk decision).1.map .progress))
      (s.decideBulk decision).2 := by
  rw [decideBulk, Coordinator.isDraining]
  cases hp : s.approvals.progress with
  | some p => exact .refuses (.bulkRunning (by rw [hp]; exact Option.some_ne_none p))
  | none =>
    rw [Option.isSome_none, if_neg Bool.noConfusion]
    cases ha : s.approvable.map (·.callId) with
    | nil => exact .refuses (.nothingApprovable hp (List.map_eq_nil_iff.1 ha))
    | cons first rest => exact .decidesAll hp ha

theorem foldl_tell (s : Session) (ms : List Message) :
    ms.foldl (fun s m => s.tell (.messageFinalized m)) s =
      { s with outbox := s.outbox ++ Effect.tellings (ms.map .messageFinalized) } := by
  induction ms generalizing s with
  | nil => simp only [List.foldl_nil, List.map_nil, Effect.tellings, List.append_nil]
  | cons m ms ih =>
    rw [List.foldl_cons, ih, tell_eq]
    simp only [List.append_assoc]
    rfl

theorem reaction_hydrate (s : Session) (messages : List Message) :
    s.Reaction (.command (.hydrate messages)) (some (.ok (.flag (s.hydrate messages).1)))
      (s.hydrate messages).2 := by
  rw [hydrate]
  cases hc : s.canHydrate with
  | false => exact .ignores (.hydrate hc)
  | true =>
    -- The transcript takes the messages too, since it asks for less than the session.
    have he : s.transcript.isEmpty = true := (Bool.and_eq_true_iff.1 hc).2
    rw [if_pos rfl, Transcript.hydrate, if_pos he]
    simp only [if_true, foldl_tell]
    exact .hydrates hc

theorem reaction_handle (s : Session) (e : Envelope) :
    s.Reaction (.event e) none (s.handle e) := by
  rw [handle]
  cases hl : s.isLive e.generation with
  | false => exact .ignores (.event hl)
  | true =>
    rw [if_pos rfl]
    obtain ⟨generation, event⟩ := e
    cases event with
    | completed time => exact .completes hl
    | error message => exact .fails hl
    | _ => exact .writes hl rfl

/-- A session takes every input in one of these ways. -/
theorem reaction (s : Session) (i : Input) : s.Reaction i (s.react i).1 (s.react i).2 := by
  cases i with
  | event e => exact reaction_handle s e
  | elapse time => exact .waits
  | command c =>
    cases c with
    | submit content => exact reaction_submit s content
    | startTurn content => exact reaction_startTurn s content
    | submitNow id => exact reaction_submitNow s id
    | removeQueued id => exact reaction_removeQueued s id
    | cancel => exact reaction_cancel s
    | decideSingle callId approve reason => exact reaction_decideSingle s callId approve reason
    | decideBulk decision => exact reaction_decideBulk s decision
    | hydrate messages => exact reaction_hydrate s messages
    | snapshot => exact .ignores .snapshot
    | shutdown => exact .shutsDown

end Session

end Dialogue
