import Dialogue.Tool
import Dialogue.Usage

/-!
# Messages

A message of a conversation. One from the assistant also has segments: its text
and its tool calls in the order in which they came. The segment of a call has
the identifier of the call, which is what later events find it by.
-/

namespace Dialogue

/-- Who wrote a message. -/
inductive Role where
  | user
  | assistant
  deriving DecidableEq, Repr

/-- A piece of an assistant's message. -/
inductive Segment where
  | text (id : String) (text : String)
  | tool (id : String) (execution : ToolExecution)
  deriving DecidableEq, Repr

namespace Segment

/-- The segment of a call. -/
def ofExecution (e : ToolExecution) : Segment :=
  .tool e.callId e

/-- The identifier. -/
def id : Segment → String
  | .text id _ => id
  | .tool id _ => id

/-- The call, if this is one. -/
def execution? : Segment → Option ToolExecution
  | .tool _ e => some e
  | .text .. => none

/-- The text, if this is one. -/
def text? : Segment → Option String
  | .text _ words => some words
  | .tool .. => none

/-- Whether this is a call. -/
def isTool : Segment → Bool
  | .tool .. => true
  | .text .. => false

end Segment

/-- A message. -/
structure Message where
  id : String
  role : Role
  content : String
  /-- Milliseconds since the epoch. -/
  createdAt : Int
  /-- Whether it is still being written. -/
  streaming : Bool
  segments : List Segment
  usage : Option Usage
  deriving DecidableEq, Repr

namespace Message

/-- A user's message. -/
def ofUser (id content : String) (createdAt : Int) : Message :=
  { id, role := .user, content, createdAt, streaming := false, segments := [], usage := none }

/-- An assistant's message that nothing has been written to yet. -/
def beginAssistant (id : String) (createdAt : Int) : Message :=
  { id, role := .assistant, content := "", createdAt, streaming := true, segments := [],
    usage := none }

/-- Whether the assistant wrote it. -/
def isAssistant (m : Message) : Bool :=
  m.role == .assistant

/-- Whether there is anything to show. -/
def hasContent (m : Message) : Bool :=
  m.content != "" || !m.segments.isEmpty

/-- The calls, in order. -/
def executions (m : Message) : List ToolExecution :=
  m.segments.filterMap Segment.execution?

/-- The message no longer being written. -/
def settled (m : Message) : Message :=
  { m with streaming := false }

end Message

/-- The account of a conversation: that of each assistant's message in order,
    then the current one. -/
def Usage.aggregate (messages : List Message) (current : Option Usage) : Usage :=
  let finished := combineAll ((messages.filter Message.isAssistant).filterMap Message.usage)
  match current with
  | some u => combine finished u
  | none => finished

end Dialogue
