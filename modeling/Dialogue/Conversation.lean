import Dialogue.Ids
import Dialogue.Message.Json

/-!
# Stored conversations

A conversation as the server keeps it, and the messages it comes to.

Stored messages are read with more patience than one's own: the role may stand
under an older name, what is missing gets a fresh identifier or the present time,
and a message or segment that cannot be used is left out. A user's message has
neither segments nor usage.
-/

namespace Dialogue

open Json

/-- A message as it is stored. -/
structure StoredMessage where
  id : Option String
  role : Option String
  /-- The role in older records. -/
  olderRole : Option String
  content : Value
  /-- Milliseconds since the epoch. -/
  timestamp : Option Int
  segments : List Value
  usage : Option Usage
  deriving DecidableEq, Repr

/-- A conversation as it is stored. -/
structure Conversation where
  id : Option String
  messages : List StoredMessage
  deriving DecidableEq, Repr

namespace StoredMessage

/-- A stored message from a record. -/
def ofTree? (t : Tree) : Option StoredMessage := do
  let [id, role, olderRole, content, timestamp, segments, usage] ←
    t.fields? [["id"], ["role"], ["type"], ["content"], ["timestamp", "createdAtMs"],
      ["segments"], ["usage", "token_usage"]] | none
  let id ← Tree.optional? Tree.string? id
  let role ← Tree.optional? Tree.string? role
  let olderRole ← Tree.optional? Tree.string? olderRole
  let content ← Tree.withDefault? .null Tree.value? content
  let timestamp ← Tree.optional? Tree.int64? timestamp
  let segments ← Tree.withDefault? [] (Tree.list? Tree.value?) segments
  let usage ← Tree.optional? Usage.ofTree? usage
  some { id, role, olderRole, content, timestamp, segments, usage }

/-- The given identifier, or a fresh one. -/
def idOrFresh (ids : Ids) : Option String → String × Ids
  | some id => (id, ids)
  | none => (ids.next, ids.advance)

/-- The record of a call: under the first of its names that is there. -/
def executionMembers? (v : Value) : Option (List (String × Value)) :=
  match ["execution", "toolExecution", "tool_execution"].findSome? v.get? with
  | some (.object members) => some members
  | _ => none

/-- The record of a call with its identifier, if need be that of the segment. -/
def identified? (id : Option String) (members : List (String × Value)) :
    Option (List (String × Value)) :=
  if (members.lookup "call_id").isSome || (members.lookup "callId").isSome then some members
  else id.map fun id => Members.insert "call_id" (.string id) members

/-- The segment of a stored one, if it can be used. -/
def segment? (ids : Ids) (v : Value) : Option Segment × Ids :=
  let id := (v.get? "id").bind Value.string?
  match (v.get? "kind").bind Value.string? with
  | some "text" =>
    let (id, ids) := idOrFresh ids id
    (some (.text id (((v.get? "text").bind Value.string?).getD "")), ids)
  | some "tool" =>
    let update := ((executionMembers? v).bind (identified? id)).bind fun members =>
      ToolUpdate.ofTree? (Value.object members).toTree
    (update.map fun u => .ofExecution (.ofUpdate u .pending), ids)
  | _ => (none, ids)

/-- The segments of stored ones. -/
def segmentsOf (ids : Ids) : List Value → List Segment × Ids
  | [] => ([], ids)
  | v :: vs =>
    let (s, ids) := segment? ids v
    let (ss, ids) := segmentsOf ids vs
    (s.toList ++ ss, ids)

/-- The text of a message: its own if it is not empty, else that of its
    segments. -/
def contentOf (content : Value) (segments : List Segment) : String :=
  match content with
  | .string text => if text = "" then String.join (segments.filterMap Segment.text?) else text
  | _ => String.join (segments.filterMap Segment.text?)

/-- The message of a stored one, if its role is known. -/
def toMessage (m : StoredMessage) (ids : Ids) (now : Int) : Option Message × Ids :=
  match (m.role <|> m.olderRole).bind Role.ofName? with
  | none => (none, ids)
  | some role =>
    let (segments, ids) := if role = .assistant then segmentsOf ids m.segments else ([], ids)
    let (id, ids) := idOrFresh ids m.id
    let usage := m.usage.filter fun u => role == .assistant && !u.isEmpty
    (some {
      id, role
      content := contentOf m.content segments
      createdAt := m.timestamp.getD now
      streaming := false
      segments, usage }, ids)

end StoredMessage

namespace Conversation

/-- A conversation from a record. -/
def ofTree? (t : Tree) : Option Conversation := do
  let [id, messages] ← t.fields? [["id"], ["messages"]] | none
  let id ← Tree.optional? Tree.string? id
  let messages ← Tree.optional? (Tree.list? StoredMessage.ofTree?) messages
  some { id, messages := messages.getD [] }

/-- A conversation from a text. -/
def parse? (s : String) : Option Conversation :=
  (Tree.parse? s).bind ofTree?

/-- The messages of stored ones, in order. -/
def messagesOf (ids : Ids) (now : Int) : List StoredMessage → List Message × Ids
  | [] => ([], ids)
  | m :: ms =>
    let (m, ids) := m.toMessage ids now
    let (ms, ids) := messagesOf ids now ms
    (m.toList ++ ms, ids)

/-- The messages of a conversation. -/
def toMessages (c : Conversation) (ids : Ids) (now : Int) : List Message × Ids :=
  messagesOf ids now c.messages

end Conversation

end Dialogue
