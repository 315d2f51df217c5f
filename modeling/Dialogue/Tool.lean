import Dialogue.Json.Value

/-!
# Tool calls

A call of a tool inside an answer: what is known of it (`ToolExecution`), and
what one event says of it (`ToolUpdate`). An update says nothing of the fields
it does not carry, so `ToolExecution.merge` keeps those and the last update that
carries a field decides it.
-/

namespace Dialogue

/-- How far a call has come. -/
inductive ToolStatus where
  | pending
  | executing
  | awaitingApproval
  | approved
  | denied
  | completed
  | error
  deriving DecidableEq, Repr

namespace ToolStatus

/-- After these the call is not run again. -/
def isTerminal : ToolStatus → Bool
  | .completed | .error | .denied => true
  | _ => false

/-- In these a decision can still change the outcome. -/
def isAwaitingDecision : ToolStatus → Bool
  | .pending | .awaitingApproval => true
  | _ => false

/-- The name of a status. -/
def name : ToolStatus → String
  | .pending => "pending"
  | .executing => "executing"
  | .awaitingApproval => "awaiting_approval"
  | .approved => "approved"
  | .denied => "denied"
  | .completed => "completed"
  | .error => "error"

/-- Every status. -/
def all : List ToolStatus :=
  [.pending, .executing, .awaitingApproval, .approved, .denied, .completed, .error]

/-- The status with a name. -/
def ofName? (s : String) : Option ToolStatus :=
  all.find? fun status => status.name == s

end ToolStatus

/-- What is known of a call. -/
structure ToolExecution where
  callId : String
  name : String
  title : Option String
  arguments : Json.Value
  status : ToolStatus
  result : Option Json.Value
  error : Option String
  requiresApproval : Bool
  deriving DecidableEq, Repr

/-- What an event says of a call. -/
structure ToolUpdate where
  callId : String
  name : Option String := none
  title : Option String := none
  arguments : Option Json.Value := none
  status : Option ToolStatus := none
  result : Option Json.Value := none
  error : Option String := none
  requiresApproval : Option Bool := none
  deriving DecidableEq, Repr

namespace ToolUpdate

/-- An update of the status alone. -/
def withStatus (callId : String) (status : ToolStatus) : ToolUpdate :=
  { callId, status := some status }

/-- The update with a status, its own if it has one. -/
def orStatus (u : ToolUpdate) (status : ToolStatus) : ToolUpdate :=
  { u with status := some (u.status.getD status) }

end ToolUpdate

namespace ToolExecution

/-- A call of which nothing is known but its identifier and a status. -/
def bare (callId : String) (status : ToolStatus) : ToolExecution :=
  { callId, name := "", title := none, arguments := .null, status, result := none,
    error := none, requiresApproval := false }

/-- Overwrite what an update carries. The identifier stays. -/
def merge (e : ToolExecution) (u : ToolUpdate) : ToolExecution :=
  { callId := e.callId
    name := u.name.getD e.name
    title := u.title <|> e.title
    arguments := u.arguments.getD e.arguments
    status := u.status.getD e.status
    result := u.result <|> e.result
    error := u.error <|> e.error
    requiresApproval := u.requiresApproval.getD e.requiresApproval }

/-- The call that an update is the first word on. -/
def ofUpdate (u : ToolUpdate) (fallback : ToolStatus) : ToolExecution :=
  (bare u.callId fallback).merge u

/-- Whether a decision on the call still means something. -/
def isApprovable (e : ToolExecution) : Bool :=
  e.requiresApproval && e.status.isAwaitingDecision

/-- The title, or the name of the tool. -/
def displayTitle (e : ToolExecution) : String :=
  e.title.getD e.name

end ToolExecution

end Dialogue
