/-!
# Errors

The causes for which an operation is refused or fails, and their wording
(`Error.message`).
-/

namespace Dialogue

/-- Why an operation is refused or failed. -/
inductive Error where
  /-- The server could not be reached. -/
  | transport (detail : String)
  /-- The server refused, with a status and a text. -/
  | http (status : Nat) (body : String)
  /-- An answer could not be read. -/
  | decode (detail : String)
  /-- The configuration is not usable. -/
  | config (detail : String)
  /-- There is no such thing. -/
  | notFound (what : String)
  /-- The operation does not apply in this state. -/
  | invalidState (why : String)
  /-- The session has been closed. -/
  | sessionClosed
  /-- A text could not be read as JSON. -/
  | serialization (detail : String)
  deriving DecidableEq, Repr

namespace Error

/-- The wording of an error. -/
def message : Error → String
  | .transport detail => "Transport error: " ++ detail
  | .http status body => "HTTP " ++ toString status ++ ": " ++ body
  | .decode detail => "Decode error: " ++ detail
  | .config detail => "Configuration error: " ++ detail
  | .notFound what => "Not found: " ++ what
  | .invalidState why => "Invalid state: " ++ why
  | .sessionClosed => "Session runtime is closed"
  | .serialization detail => detail

/-- There is no queued input with this identifier. -/
def noSuchEntry (id : String) : Error :=
  .notFound ("Queued message not found: " ++ id)

/-- An entry was already pulled out of the queue to be sent at once. -/
def immediateInFlight : Error :=
  .invalidState "An immediate submission is already in flight"

/-- Blank input. -/
def blankInput : Error :=
  .invalidState "Input must not be empty"

/-- A bulk decision is under way. -/
def bulkRunning : Error :=
  .invalidState "A bulk decision is already running"

/-- There is nothing to decide. -/
def nothingApprovable : Error :=
  .invalidState "No tool calls are awaiting approval"

/-- The session has nowhere to load conversations from. -/
def noStore : Error :=
  .invalidState "No conversation store configured"

/-- There is no stored conversation with this identifier. -/
def noConversation (id : String) : Error :=
  .notFound ("Conversation not found: " ++ id)

end Error

end Dialogue
