import Dialogue.Approval
import Dialogue.Event
import Dialogue.Queue
import Dialogue.Transcript
import Dialogue.Usage.Throttle

/-!
# Sessions

A session holds one conversation with the agent: its transcript, the turn that
is running, input that waits for its turn to come, a bulk decision that is being
worked through, and the account of what was used.

This file has its parts: the state, what it asks of the outside and tells it
(`Effect`), and what can be seen of it (`Snapshot`). What it does is in
`Dialogue.Session.Step`.

Every stream that a session opens has a generation of its own, larger than any
before. An event that reaches the session carries the generation of its stream,
so that those of streams that are no longer wanted can be told apart.
-/

namespace Dialogue

/-- What a session is doing. -/
inductive Phase where
  | idle
  | streaming
  /-- Streaming for a bulk decision. -/
  | drainingApprovals
  | cancelling
  deriving DecidableEq, Repr

/-- Whether the session is doing anything. -/
def Phase.isBusy (p : Phase) : Bool :=
  p != .idle

/-- What a turn is for. -/
inductive TurnKind where
  | newTurn
  | approvalContinuation
  deriving DecidableEq, Repr

/-- How a turn ended. -/
inductive Outcome where
  | completed
  | cancelled
  | failed (message : String)
  deriving DecidableEq, Repr

/-- What a stream is asked for. -/
inductive Request where
  /-- An answer to the messages. -/
  | newTurn (conversationId : String) (messages : List Message)
  /-- The rest of an answer, after a call was decided. -/
  | approvalContinuation (conversationId callId : String) (approve : Bool)
      (reason : Option String)
  deriving DecidableEq, Repr

/-- The conversation that a request belongs to. -/
def Request.conversationId : Request → String
  | .newTurn id _ => id
  | .approvalContinuation id _ _ _ => id

/-- An event and the generation of its stream. -/
structure Envelope where
  generation : Nat
  event : TurnEvent
  deriving DecidableEq, Repr

/-- What a session tells whoever watches it. -/
inductive Update where
  | stateChanged (phase : Phase)
  /-- The message in progress changed. -/
  | messageUpdated (message : Message)
  /-- A message entered the finalized ones. -/
  | messageFinalized (message : Message)
  | usageTick (turn session : Usage)
  /-- The progress of a bulk decision, nothing once it is over. -/
  | approvalProgress (progress : Option Progress)
  | queueChanged (entries : List QueuedInput)
  | turnFinished (outcome : Outcome)
  deriving DecidableEq, Repr

/-- What a session does to the outside. -/
inductive Effect where
  /-- It tells its watchers something. -/
  | told (update : Update)
  /-- It opens a stream. -/
  | opened (generation : Nat) (request : Request)
  /-- It gives up the stream of a generation. -/
  | cancelled (generation : Nat)
  /-- It asks the server to stop a run. -/
  | stopRequested (conversationId runId : String)
  deriving DecidableEq, Repr

namespace Effect

/-- The updates among effects. -/
def updates (effects : List Effect) : List Update :=
  effects.filterMap fun | .told u => some u | _ => none

/-- The streams that effects open. -/
def openings (effects : List Effect) : List (Nat × Request) :=
  effects.filterMap fun | .opened generation request => some (generation, request) | _ => none

/-- The generations whose streams effects give up. -/
def cancellations (effects : List Effect) : List Nat :=
  effects.filterMap fun | .cancelled generation => some generation | _ => none

/-- The runs that effects ask the server to stop, with their conversations. -/
def stops (effects : List Effect) : List (String × String) :=
  effects.filterMap fun
    | .stopRequested conversationId runId => some (conversationId, runId)
    | _ => none

end Effect

/-- The turn that is running. -/
structure ActiveTurn where
  kind : TurnKind
  /-- The generation of its stream. -/
  generation : Nat
  /-- The run, once the server accepted it. -/
  runId : Option String := none
  /-- Milliseconds since the epoch. -/
  startedAt : Nat
  /-- What the message had used before this stream continued it. -/
  baseUsage : Usage
  deriving DecidableEq, Repr

/-- A session. -/
structure Session where
  conversationId : String
  phase : Phase := .idle
  /-- The generation of the last stream, or a later one that no stream has. -/
  generation : Nat := 0
  turn : Option ActiveTurn := none
  transcript : Transcript := {}
  /-- What the running stream has used, or the last one. -/
  usage : Usage := .empty
  throttle : Throttle
  approvals : Coordinator := {}
  queue : InputQueue := {}
  lastError : Option String := none
  /-- Milliseconds since the epoch. -/
  now : Nat := 0
  ids : Ids
  /-- What was done to the outside and not yet collected, the oldest first. -/
  outbox : List Effect := []

/-- What can be seen of a session. -/
structure Snapshot where
  conversationId : String
  phase : Phase
  generation : Nat
  runId : Option String
  /-- Every message, the one in progress last. -/
  messages : List Message
  queue : List QueuedInput
  approvable : List ToolExecution
  approvalProgress : Option Progress
  turnUsage : Usage
  sessionUsage : Usage
  lastError : Option String
  deriving DecidableEq, Repr

namespace Session

/-- A session in which nothing has happened. -/
def start (conversationId : String) (interval now : Nat) (ids : Ids) : Session :=
  { conversationId, throttle := ⟨interval, none⟩, now, ids }

/-- The run of the active turn. -/
def runId? (s : Session) : Option String :=
  s.turn.bind (·.runId)

/-- The calls that can be decided. -/
def approvable (s : Session) : List ToolExecution :=
  Dialogue.approvable s.transcript.current? s.transcript.finalized

/-- What the running stream used, on top of what its message had used before. -/
def inFlightUsage (s : Session) : Usage :=
  Usage.combine ((s.turn.map (·.baseUsage)).getD .empty) s.usage

/-- What the conversation used. -/
def sessionUsage (s : Session) : Usage :=
  Usage.aggregate s.transcript.finalized (s.turn.map fun _ => s.inFlightUsage)

/-- Whether stored messages could still be loaded. -/
def canHydrate (s : Session) : Bool :=
  !s.phase.isBusy && s.turn.isNone && s.transcript.isEmpty

/-- What can be seen. -/
def snapshot (s : Session) : Snapshot :=
  { conversationId := s.conversationId
    phase := s.phase
    generation := s.generation
    runId := s.runId?
    messages := s.transcript.messages
    queue := s.queue.entries
    approvable := s.approvable
    approvalProgress := s.approvals.progress
    turnUsage := s.usage
    sessionUsage := s.sessionUsage
    lastError := s.lastError }

end Session

end Dialogue
