import Dialogue.Event
import Dialogue.Text.Blank
import Dialogue.Tool.Json
import Dialogue.Usage.Json

/-!
# Events from the wire

An event arrives as a name and a text. `TurnEvent.decode` tells the names that
mean nothing to a client (`ignored`) from a known name whose text cannot be used
(`malformed`); a reader drops either and goes on.

* The text of a token is taken as it is, unless it is a JSON string or an object
  with a string under `text`.
* A failure always ends the turn, whatever its text is.
-/

namespace Dialogue

open Json

/-- Why an event cannot be used. -/
inductive Malformed where
  /-- The text is not the payload of such an event. -/
  | payload (event data : String)
  /-- No time is given. -/
  | noDuration (data : String)
  deriving DecidableEq, Repr

/-- The wording, given the detail of what is wrong with a payload. -/
def Malformed.message (detail : String) : Malformed → String
  | .payload event data =>
    "invalid " ++ event ++ " payload: " ++ detail ++ ", data: " ++ data
  | .noDuration data => "ttft without duration, data: " ++ data

/-- What an event on the wire means. -/
inductive Decoded where
  | event (e : TurnEvent)
  | ignored
  | malformed (why : Malformed)
  deriving DecidableEq, Repr

namespace Payload

/-- The text of a token. -/
def tokenText (data : String) : String :=
  match Value.parse? data with
  | some (.string text) => text
  | some v => ((v.get? "text").bind Value.string?).getD data
  | none => data

/-- The run that was accepted. -/
def runId? (t : Tree) : Option String := do
  let [runId] ← t.fields? [["run_id", "runId"]] | none
  Tree.required? Tree.string? runId

/-- The calls that are pending. -/
def pendingTools? (t : Tree) : Option (List ToolUpdate) := do
  let [executions] ← t.fields? [["executions", "tools"]] | none
  let updates ← Tree.required? (Tree.list? ToolUpdate.ofTree?) executions
  some (updates.map (·.orStatus .pending))

/-- The source of a report, the main call unless another is named. -/
def usageSource? (v : Value) : Option UsageSource :=
  match v.get? "source" with
  | none => some .main
  | some .null => some .main
  | some s => UsageSource.ofTree? s.toTree

/-- The account of a report: under `usage` if that is an object, else beside the
    source. -/
def usageAccount? (v : Value) : Option Usage :=
  match v.get? "usage" with
  | some (.object members) => Usage.ofTree? (Value.object members).toTree
  | _ => Usage.ofTree? v.toTree

/-- A report of tokens. -/
def usageReport? (v : Value) : Option (Usage × UsageSource) := do
  let source ← usageSource? v
  let account ← usageAccount? v
  some (account, source)

/-- A time in milliseconds: a number that is not negative, rounded. -/
def time? : Value → Option Count
  | .number (.int i) => if 0 ≤ i then some (Count.ofNat i.toNat) else none
  | .number (.float x) => if x.isBelowZero then none else some (Count.ofNat x.roundHalfUp)
  | _ => none

/-- The time under the first of the keys that has one. -/
def timeUnder? (keys : List String) (v : Value) : Option Count :=
  keys.findSome? fun key => (v.get? key).bind time?

/-- The reason under a key: a text that is not empty, or what an object has under
    `message`. -/
def reasonUnder? (v : Value) (key : String) : Option String :=
  match v.get? key with
  | some (.string s) => if s = "" then none else some s
  | some (.object members) => ((Value.object members).get? "message").bind Value.string?
  | _ => none

/-- The reason of a failure. -/
def reason? (v : Value) : Option String :=
  ["message", "error"].findSome? (reasonUnder? v)

/-- The reason of a failure that gives none. -/
def unknownReason : String := "agent turn failed"

/-- A text as a value; a blank one is an object without members. -/
def valueOrEmpty? (data : String) : Option Value :=
  if Text.isBlank data then some (.object []) else Value.parse? data

end Payload

namespace TurnEvent

open Payload

/-- The event, or what is wrong with the payload. -/
def orMalformed (event data : String) (e : Option TurnEvent) : Decoded :=
  match e with
  | some e => .event e
  | none => .malformed (.payload event data)

/-- The names of a report of tokens. -/
def usageNames : List String := ["token_usage", "token.usage"]

/-- The names of a failure. -/
def failureNames : List String := ["error", "workflow.error", "workflow_error"]

/-- What a name and a text mean. -/
def decode (event data : String) : Decoded :=
  if event = "ready" then
    orMalformed event data (((Tree.parse? data).bind runId?).map .ready)
  else if event = "token" then .event (.token (tokenText data))
  else if event = "tools.pending" then
    orMalformed event data (((Tree.parse? data).bind pendingTools?).map .toolsPending)
  else if usageNames.contains event then
    orMalformed event data
      (((Value.parse? data).bind usageReport?).map fun (report, source) =>
        .usage report source)
  else if event = "ttft" then
    match Value.parse? data with
    | none => .malformed (.payload event data)
    | some v =>
      match timeUnder? ["duration_ms", "duration"] v with
      | some time => .event (.firstToken time)
      | none => .malformed (.noDuration data)
  else if event = "completed" then
    orMalformed event data
      ((valueOrEmpty? data).map fun v => .completed (timeUnder? ["duration_ms"] v))
  else if event = "workflow_complete" then
    orMalformed event data ((valueOrEmpty? data).map fun _ => .completed none)
  else if failureNames.contains event then
    .event (.error (((valueOrEmpty? data).bind reason?).getD unknownReason))
  else
    match ToolEvent.ofName? event with
    | some kind =>
      orMalformed event data
        (((Tree.parse? data).bind ToolUpdate.ofTree?).map fun u =>
          .tool kind (u.orStatus kind.impliedStatus))
    | none => .ignored

end TurnEvent

end Dialogue
