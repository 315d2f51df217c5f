import Dialogue.Tool
import Dialogue.Usage

/-!
# Turn events

What the server reports while a turn runs. The two terminal events end the turn;
nothing follows them.
-/

namespace Dialogue

/-- The events about a single call. -/
inductive ToolEvent where
  | executing
  | result
  | error
  | awaitingApproval
  | approved
  | denied
  deriving DecidableEq, Repr

namespace ToolEvent

/-- The name on the wire. -/
def name : ToolEvent → String
  | .executing => "tool.executing"
  | .result => "tool.result"
  | .error => "tool.error"
  | .awaitingApproval => "tool.awaiting_approval"
  | .approved => "tool.approved"
  | .denied => "tool.denied"

/-- Every such event. -/
def all : List ToolEvent :=
  [.executing, .result, .error, .awaitingApproval, .approved, .denied]

/-- The event with a name on the wire. -/
def ofName? (s : String) : Option ToolEvent :=
  all.find? fun e => e.name == s

/-- The status of the call if the event names none. -/
def impliedStatus : ToolEvent → ToolStatus
  | .executing => .executing
  | .result => .completed
  | .error => .error
  | .awaitingApproval => .awaitingApproval
  | .approved => .approved
  | .denied => .denied

/-- Whether the event may be the first word on a call. -/
def createsSegment : ToolEvent → Bool
  | .result | .approved => false
  | _ => true

end ToolEvent

/-- An event of a running turn. -/
inductive TurnEvent where
  /-- The server accepted the turn as a run. -/
  | ready (runId : String)
  /-- A piece of the answer. -/
  | token (text : String)
  /-- Calls that the answer is going to make. -/
  | toolsPending (updates : List ToolUpdate)
  /-- News of one call. -/
  | tool (kind : ToolEvent) (update : ToolUpdate)
  /-- A report of tokens. -/
  | usage (report : Usage) (source : UsageSource)
  /-- The time to the first token. -/
  | firstToken (time : Count)
  /-- The turn is done, after a time if the server gives one. -/
  | completed (time : Option Count)
  /-- The turn failed. -/
  | error (message : String)
  deriving DecidableEq, Repr

namespace TurnEvent

/-- Whether the turn is over with it. -/
def isTerminal : TurnEvent → Bool
  | .completed _ | .error _ => true
  | _ => false

/-- The name of the event. -/
def name : TurnEvent → String
  | .ready _ => "ready"
  | .token _ => "token"
  | .toolsPending _ => "tools.pending"
  | .tool kind _ => kind.name
  | .usage .. => "token_usage"
  | .firstToken _ => "ttft"
  | .completed _ => "completed"
  | .error _ => "error"

end TurnEvent

end Dialogue
