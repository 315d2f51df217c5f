import Dialogue.Approval.Json
import Dialogue.Event.Json
import Dialogue.Message.Json
import Dialogue.Queue.Json
import Dialogue.Session

/-!
# Sessions in JSON

How phases, kinds and outcomes of turns are written and read, and how the rest is
written: snapshots, updates, and the requests and events of streams.
-/

namespace Dialogue

open Json

namespace Phase

/-- The name of a phase. -/
def name : Phase → String
  | .idle => "idle"
  | .streaming => "streaming"
  | .drainingApprovals => "draining_approvals"
  | .cancelling => "cancelling"

/-- Every phase. -/
def all : List Phase :=
  [.idle, .streaming, .drainingApprovals, .cancelling]

/-- The phase with a name. -/
def ofName? (s : String) : Option Phase :=
  all.find? fun p => p.name == s

/-- A phase from its name. -/
def ofTree? (t : Tree) : Option Phase :=
  (t.choice? .direct).bind ofName?

/-- A phase as its name. -/
def toJson (p : Phase) : Value :=
  .string p.name

end Phase

namespace TurnKind

/-- The name of a kind. -/
def name : TurnKind → String
  | .newTurn => "new_turn"
  | .approvalContinuation => "approval_continuation"

/-- The kind with a name. -/
def ofName? (s : String) : Option TurnKind :=
  [newTurn, approvalContinuation].find? fun k => k.name == s

/-- A kind from its name. -/
def ofTree? (t : Tree) : Option TurnKind :=
  (t.choice? .direct).bind ofName?

/-- A kind as its name. -/
def toJson (k : TurnKind) : Value :=
  .string k.name

end TurnKind

namespace Outcome

/-- An outcome from a record tagged by it. -/
def ofTree? (t : Tree) : Option Outcome := do
  let (outcome, t) ← t.tagged? "outcome"
  if outcome = "completed" then t.noFields?.map fun _ => .completed
  else if outcome = "cancelled" then t.noFields?.map fun _ => .cancelled
  else if outcome = "failed" then
    let [message] ← t.fields? [["message"]] | none
    (Tree.required? Tree.string? message).map .failed
  else none

/-- An outcome as a record tagged by it. -/
def toJson : Outcome → Value
  | .completed => .ofMembers [("outcome", .string "completed")]
  | .cancelled => .ofMembers [("outcome", .string "cancelled")]
  | .failed message => .ofMembers [("outcome", .string "failed"), ("message", .string message)]

end Outcome

namespace Snapshot

/-- A snapshot as a record. -/
def toJson (s : Snapshot) : Value :=
  .ofMembers
    [("conversationId", .string s.conversationId), ("state", s.phase.toJson),
      ("generation", .nat s.generation), ("runId", .ofOption .string s.runId),
      ("messages", .array (s.messages.map Message.toJson)),
      ("queue", .array (s.queue.map QueuedInput.toJson)),
      ("approvable", .array (s.approvable.map ToolExecution.toJson)),
      ("approvalProgress", .ofOption Progress.toJson s.approvalProgress),
      ("turnUsage", s.turnUsage.toJson), ("sessionUsage", s.sessionUsage.toJson),
      ("lastError", .ofOption .string s.lastError)]

end Snapshot

namespace Update

/-- The type of an update and what it carries. -/
def members : Update → String × List (String × Value)
  | .stateChanged phase => ("state_changed", [("state", phase.toJson)])
  | .messageUpdated m => ("message_updated", [("message", m.toJson)])
  | .messageFinalized m => ("message_finalized", [("message", m.toJson)])
  | .usageTick turn session =>
    ("usage_tick", [("turn", turn.toJson), ("session", session.toJson)])
  | .approvalProgress p => ("approval_progress", [("progress", .ofOption Progress.toJson p)])
  | .queueChanged entries =>
    ("queue_changed", [("queue", .array (entries.map QueuedInput.toJson))])
  | .turnFinished outcome => ("turn_finished", [("outcome", outcome.toJson)])

/-- An update as a record. -/
def toJson (u : Update) : Value :=
  let (type, members) := u.members
  .ofMembers (("type", .string type) :: members)

end Update

namespace Request

/-- A request as a record. -/
def toJson : Request → Value
  | .newTurn conversationId messages =>
    .ofMembers
      [("kind", TurnKind.newTurn.toJson), ("conversation_id", .string conversationId),
        ("messages", .array (messages.map Message.toJson))]
  | .approvalContinuation conversationId callId approve reason =>
    .ofMembers
      [("kind", TurnKind.approvalContinuation.toJson),
        ("conversation_id", .string conversationId), ("call_id", .string callId),
        ("approve", .bool approve), ("reason", .ofOption .string reason)]

end Request

/-- An event with its generation as a record. -/
def Envelope.toJson (e : Envelope) : Value :=
  .ofMembers [("generation", .nat e.generation), ("event", e.event.toJson)]

end Dialogue
