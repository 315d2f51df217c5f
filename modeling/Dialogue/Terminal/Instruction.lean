import Dialogue.Text.Blank

/-!
# Lines of a user

What a line asks for. A line that does not start with a slash is a message to
send; after a slash come the word of an instruction and what it needs, with
blanks between them. A blank line asks for nothing.

* `Instruction.parse` reads a line, `LineError` says why it cannot;
* `Instruction.line` writes an instruction as a line that reads back as it, if its
  texts are not blank at their ends and its identifiers hold no blanks.
-/

namespace Dialogue.Terminal

/-- What a line asks for. -/
inductive Instruction where
  | submit (content : String)
  | cancel
  /-- Approve one call, or all that wait for a decision. -/
  | approve (callId : Option String)
  | deny (callId : String) (reason : Option String)
  /-- Deny all calls that wait for a decision. -/
  | denyAll
  | queue
  /-- Send queued input at once. -/
  | now (id : String)
  /-- Remove queued input. -/
  | drop (id : String)
  | usage
  | help
  | quit
  deriving DecidableEq, Repr

/-- Why a line cannot be read. -/
inductive LineError where
  /-- The instruction needs the identifier of queued input. -/
  | needsEntry (word : String)
  | unknown (word : String)
  deriving DecidableEq, Repr

/-- The wording. -/
def LineError.message : LineError → String
  | .needsEntry word => "usage: /" ++ word ++ " <queued id>"
  | .unknown word => "unknown command: /" ++ word ++ " (try /help)"

/-- What the instructions are. -/
def helpText : String :=
  "\n".intercalate
    ["Type a message to send it. Commands:",
      "  /cancel                     stop the running turn",
      "  /approve [call_id]          approve one call, or all awaiting calls",
      "  /deny [call_id [reason]]    deny one call with an optional reason, or all awaiting calls",
      "  /queue                      list queued input",
      "  /now <id>                   send a queued message immediately",
      "  /drop <id>                  remove a queued message",
      "  /usage                      show token usage",
      "  /quit                       exit"]

namespace Instruction

/-- A text cut at its first blank; without one, all of it and nothing. -/
def splitWord (cs : List Char) : List Char × Option (List Char) :=
  match Text.cutAtBlank? cs with
  | some (word, rest) => (word, some rest)
  | none => (cs, none)

/-- The first word. -/
def firstWord? (cs : List Char) : Option String :=
  (Text.firstWord? cs).map String.ofList

/-- The entry that an instruction needs. -/
def needEntry (word : String) (make : String → Instruction) (arguments : List Char) :
    Except LineError Instruction :=
  match firstWord? arguments with
  | some id => .ok (make id)
  | none => .error (.needsEntry word)

/-- The denial that trimmed arguments ask for. -/
def ofDenial (arguments : List Char) : Instruction :=
  if arguments.isEmpty then .denyAll
  else
    let (callId, reason) := splitWord arguments
    .deny (String.ofList callId) (reason.map fun cs => String.ofList (Text.trimChars cs))

/-- The instruction with a word and trimmed arguments. -/
def ofWord (word : String) (arguments : List Char) : Except LineError Instruction :=
  if word = "cancel" ∨ word = "stop" then .ok .cancel
  else if word = "approve" then .ok (.approve (firstWord? arguments))
  else if word = "deny" then .ok (ofDenial arguments)
  else if word = "queue" then .ok .queue
  else if word = "now" then needEntry word .now arguments
  else if word = "drop" then needEntry word .drop arguments
  else if word = "usage" then .ok .usage
  else if word = "help" ∨ word = "?" then .ok .help
  else if word = "quit" ∨ word = "exit" then .ok .quit
  else .error (.unknown word)

/-- What the characters of a line ask for. -/
def ofChars (line : List Char) : Except LineError (Option Instruction) :=
  match Text.trimChars line with
  | [] => .ok none
  | '/' :: rest =>
    let (word, arguments) := splitWord rest
    (ofWord (String.ofList word) (Text.trimChars (arguments.getD []))).map some
  | content => .ok (some (.submit (String.ofList content)))

/-- What a line asks for. -/
def parse (line : String) : Except LineError (Option Instruction) :=
  ofChars line.toList

/-- The words of an instruction, without blanks around them. -/
def words : Instruction → List String
  | .submit content => [content]
  | .cancel => ["/cancel"]
  | .approve none => ["/approve"]
  | .approve (some callId) => ["/approve", callId]
  | .deny callId none => ["/deny", callId]
  | .deny callId (some reason) => ["/deny", callId, reason]
  | .denyAll => ["/deny"]
  | .queue => ["/queue"]
  | .now id => ["/now", id]
  | .drop id => ["/drop", id]
  | .usage => ["/usage"]
  | .help => ["/help"]
  | .quit => ["/quit"]

/-- An instruction as a line. -/
def line (i : Instruction) : String :=
  " ".intercalate i.words

end Instruction

end Dialogue.Terminal
