import Dialogue.Tool
import Dialogue.Json.Reader

/-!
# Tool calls in JSON

How calls and updates are written and read. Read, a field may have its written
name or the one that the wire uses. A call without result or error is written
without them; an update is written in full, `null` for what it does not carry.
-/

namespace Dialogue

open Json

namespace ToolStatus

/-- A status from its name. -/
def ofTree? (mode : Mode) (t : Tree) : Option ToolStatus :=
  (t.choice? mode).bind ofName?

/-- A status as its name. -/
def toJson (s : ToolStatus) : Value :=
  .string s.name

end ToolStatus

/-- The fields of a call and of an update, with their spellings. -/
def toolSpellings : List (List String) :=
  [["callId", "call_id"], ["name", "tool"], ["title"], ["arguments", "args"], ["status"],
    ["result"], ["error"], ["requiresApproval", "requires_approval"]]

namespace ToolExecution

/-- A call from a record. -/
def ofTree? (mode : Mode) (t : Tree) : Option ToolExecution := do
  let [callId, name, title, arguments, status, result, error, approval] ←
    t.fields? toolSpellings | none
  let callId ← Tree.required? Tree.string? callId
  let name ← Tree.required? Tree.string? name
  let title ← Tree.optional? Tree.string? title
  let arguments ← Tree.withDefault? .null Tree.value? arguments
  let status ← Tree.required? (ToolStatus.ofTree? mode) status
  let result ← Tree.optional? Tree.value? result
  let error ← Tree.optional? Tree.string? error
  let requiresApproval ← Tree.withDefault? false Tree.bool? approval
  some { callId, name, title, arguments, status, result, error, requiresApproval }

/-- A call as a record. -/
def toJson (e : ToolExecution) : Value :=
  .ofMembers <|
    [("callId", .string e.callId), ("name", .string e.name),
      ("title", .ofOption .string e.title), ("arguments", e.arguments),
      ("status", e.status.toJson), ("requiresApproval", .bool e.requiresApproval)] ++
    (e.result.map fun r => ("result", r)).toList ++
    (e.error.map fun m => ("error", .string m)).toList

end ToolExecution

namespace ToolUpdate

/-- An update from a record. -/
def ofTree? (t : Tree) : Option ToolUpdate := do
  let [callId, name, title, arguments, status, result, error, approval] ←
    t.fields? toolSpellings | none
  let callId ← Tree.required? Tree.string? callId
  let name ← Tree.optional? Tree.string? name
  let title ← Tree.optional? Tree.string? title
  let arguments ← Tree.optional? Tree.value? arguments
  let status ← Tree.optional? (ToolStatus.ofTree? .direct) status
  let result ← Tree.optional? Tree.value? result
  let error ← Tree.optional? Tree.string? error
  let requiresApproval ← Tree.optional? Tree.bool? approval
  some { callId, name, title, arguments, status, result, error, requiresApproval }

/-- An update as a record. -/
def toJson (u : ToolUpdate) : Value :=
  .ofMembers
    [("callId", .string u.callId), ("name", .ofOption .string u.name),
      ("title", .ofOption .string u.title), ("arguments", .ofOption id u.arguments),
      ("status", .ofOption ToolStatus.toJson u.status), ("result", .ofOption id u.result),
      ("error", .ofOption .string u.error),
      ("requiresApproval", .ofOption .bool u.requiresApproval)]

end ToolUpdate

end Dialogue
