import Dialogue.Event
import Dialogue.Tool.Json
import Dialogue.Usage.Json

/-!
# Events in JSON

How an event is written down, with its name and whether it ends the turn.
-/

namespace Dialogue.TurnEvent

open Json

/-- What an event carries. -/
def payload : TurnEvent → List (String × Value)
  | .ready runId => [("run_id", .string runId)]
  | .token text => [("text", .string text)]
  | .toolsPending us => [("executions", .array (us.map ToolUpdate.toJson))]
  | .tool kind u => [("update", u.toJson), ("creates_segment", .bool kind.createsSegment)]
  | .usage report source => [("usage", report.toJson), ("source", .string source.name)]
  | .firstToken time => [("duration_ms", time.toJson)]
  | .completed time => [("duration_ms", .ofOption Count.toJson time)]
  | .error message => [("message", .string message)]

/-- An event as a record. -/
def toJson (e : TurnEvent) : Value :=
  .ofMembers ([("type", .string e.name), ("terminal", .bool e.isTerminal)] ++ e.payload)

end Dialogue.TurnEvent
