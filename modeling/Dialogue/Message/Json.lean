import Dialogue.Message
import Dialogue.Tool.Json
import Dialogue.Usage.Json

/-!
# Messages in JSON

How messages and segments are written and read. A segment is tagged by its
kind. A message without segments or usage is written without them.
-/

namespace Dialogue

open Json

namespace Role

/-- The name of a role. -/
def name : Role → String
  | .user => "user"
  | .assistant => "assistant"

/-- The role with a name. -/
def ofName? (s : String) : Option Role :=
  if s = "user" then some .user else if s = "assistant" then some .assistant else none

/-- A role from its name. -/
def ofTree? (t : Tree) : Option Role :=
  (t.choice? .direct).bind ofName?

/-- A role as its name. -/
def toJson (r : Role) : Value :=
  .string r.name

end Role

namespace Segment

/-- A segment from a record tagged by its kind. -/
def ofTree? (t : Tree) : Option Segment := do
  let (kind, t) ← t.tagged? "kind"
  if kind = "text" then
    let [id, words] ← t.fields? [["id"], ["text"]] | none
    let id ← Tree.required? Tree.string? id
    let words ← Tree.required? Tree.string? words
    some (.text id words)
  else if kind = "tool" then
    let [id, execution] ← t.fields? [["id"], ["execution"]] | none
    let id ← Tree.required? Tree.string? id
    let execution ← Tree.required? (ToolExecution.ofTree? .buffered) execution
    some (.tool id execution)
  else none

/-- A segment as a record tagged by its kind. -/
def toJson : Segment → Value
  | .text id words =>
    .ofMembers [("kind", .string "text"), ("id", .string id), ("text", .string words)]
  | .tool id execution =>
    .ofMembers [("kind", .string "tool"), ("id", .string id), ("execution", execution.toJson)]

end Segment

namespace Message

/-- The fields of a message. -/
def spellings : List (List String) :=
  [["id"], ["role"], ["content"], ["createdAtMs"], ["streaming"], ["segments"], ["usage"]]

/-- A message from a record. -/
def ofTree? (t : Tree) : Option Message := do
  let [id, role, content, createdAt, streaming, segments, usage] ← t.fields? spellings | none
  let id ← Tree.required? Tree.string? id
  let role ← Tree.required? Role.ofTree? role
  let content ← Tree.withDefault? "" Tree.string? content
  let createdAt ← Tree.required? Tree.int64? createdAt
  let streaming ← Tree.withDefault? false Tree.bool? streaming
  let segments ← Tree.withDefault? [] (Tree.list? Segment.ofTree?) segments
  let usage ← Tree.optional? Usage.ofTree? usage
  some { id, role, content, createdAt, streaming, segments, usage }

/-- A message as a record. -/
def toJson (m : Message) : Value :=
  .ofMembers <|
    [("id", .string m.id), ("role", m.role.toJson), ("content", .string m.content),
      ("createdAtMs", .int m.createdAt), ("streaming", .bool m.streaming)] ++
    (if m.segments.isEmpty then []
      else [("segments", .array (m.segments.map Segment.toJson))]) ++
    (m.usage.map fun u => ("usage", u.toJson)).toList

end Message

end Dialogue
