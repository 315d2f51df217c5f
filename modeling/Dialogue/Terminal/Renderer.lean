import Dialogue.Keyed
import Dialogue.Session.Json

/-!
# Updates on the terminal

What a watcher of a session writes for each update. Of an assistant's message
only the part not yet written appears, after a header that comes once per
message; a call has a line whenever its status is another one than was written
for it last. The user's messages are not echoed.

`Renderer.render` gives the text of one update, `Renderer.renderAll` that of
several.
-/

namespace Dialogue.Terminal

/-! ## Text by octets -/

/-- What follows the first octets of a text, if they end with a character. -/
def dropOctets? : Nat → List Char → Option (List Char)
  | 0, cs => some cs
  | _ + 1, [] => none
  | n + 1, c :: cs => if c.utf8Size ≤ n + 1 then dropOctets? (n + 1 - c.utf8Size) cs else none

/-- How many octets a text has. -/
def octets : List Char → Nat
  | [] => 0
  | c :: cs => c.utf8Size + octets cs

/-- What follows the first octets of a text; nothing if they end inside a
    character, or the text is shorter. -/
def restAfter (n : Nat) (text : String) : List Char :=
  (dropOctets? n text.toList).getD []

/-! ## Rendering -/

/-- What has been written so far. -/
structure Renderer where
  /-- How many octets of each message's text. -/
  printed : List (String × Nat) := []
  /-- The status of each call. -/
  shown : List (String × ToolStatus) := []
  deriving DecidableEq, Repr

/-- The line of a call. -/
def toolLine (e : ToolExecution) : String :=
  "\n  [tool] " ++ e.displayTitle ++ " (" ++ e.callId ++ ") " ++ e.status.name ++
    (if e.isApprovable then " - /approve or /deny" else "") ++ "\n"

/-- The name of a decision as it is shown. -/
def decisionText : Decision → String
  | .approve => "Approve"
  | .deny => "Deny"

namespace Renderer

/-- The line of a call, unless its status was written last. -/
def stepTool (shown : List (String × ToolStatus)) (e : ToolExecution) :
    String × List (String × ToolStatus) :=
  if shown.lookup e.callId = some e.status then ("", shown)
  else (toolLine e, Keyed.put e.callId e.status shown)

/-- The lines of calls. -/
def tools (shown : List (String × ToolStatus)) :
    List ToolExecution → String × List (String × ToolStatus)
  | [] => ("", shown)
  | e :: es =>
    let (line, shown) := stepTool shown e
    let (lines, shown) := tools shown es
    (line ++ lines, shown)

/-- What to write for a message: the header if it is new, the lines of its calls,
    and what there is of new text. -/
def message (r : Renderer) (m : Message) (finalized : Bool) : String × Renderer :=
  if m.isAssistant then
    let known := r.printed.lookup m.id
    let header := if known.isNone then "\nassistant> " else ""
    let (lines, shown) := tools r.shown m.executions
    let before := known.getD 0
    let fresh := restAfter before m.content
    (header ++ lines ++ String.ofList fresh ++ (if finalized then "\n" else ""),
      { printed := Keyed.put m.id (before + octets fresh) r.printed, shown })
  else ("", r)

/-- What to write for an update. -/
def render (r : Renderer) : Update → String × Renderer
  | .messageUpdated m => r.message m false
  | .messageFinalized m => r.message m true
  | .approvalProgress (some p) =>
    ("[approvals] " ++ toString p.completed ++ "/" ++ toString p.total ++ " " ++
      decisionText p.decision ++ "\n", r)
  | .queueChanged entries =>
    (if entries.isEmpty then "" else "[queue] " ++ toString entries.length ++ " waiting\n", r)
  | .turnFinished .cancelled => ("[cancelled]\n", r)
  | .turnFinished (.failed reason) => ("[error] " ++ reason ++ "\n", r)
  | _ => ("", r)

/-- What to write for updates, one text for each. -/
def renderEach (r : Renderer) : List Update → List String × Renderer
  | [] => ([], r)
  | u :: us =>
    let (text, r) := r.render u
    let (texts, r) := r.renderEach us
    (text :: texts, r)

/-- What to write for updates. -/
def renderAll (r : Renderer) (us : List Update) : String × Renderer :=
  let (texts, r) := r.renderEach us
  (String.join texts, r)

end Renderer

end Dialogue.Terminal
