import Dialogue.Error
import Dialogue.Number.Count
import Dialogue.Text.Blank
import Dialogue.Text.Percent

/-!
# Configuration

Where the server is and how patient a client is.

* `Config.override` takes over what the environment says;
* `Config.validate` tells whether a configuration can be used, and if not, the first
  of its faults;
* `Config.chatUrl`, `Config.approvalUrl`, `Config.stopUrl` and
  `Config.conversationUrl` are the addresses that a client asks at. An identifier
  in an address is percent-encoded, so it cannot change the address's shape.
-/

namespace Dialogue

/-- A configuration. -/
structure Config where
  /-- The address of the server. -/
  serverUrl : String := "http://127.0.0.1:8000"
  chatPath : String := "/agent/chat"
  /-- The path of decisions, with a placeholder for the call. -/
  approvalPath : String := "/agent/approvals/\x7bcall_id\x7d"
  stopPath : String := "/agent/stop"
  /-- The path of stored conversations, with a placeholder for the conversation. -/
  conversationPath : String := "/conversations/\x7bconversation_id\x7d"
  /-- How long an answer may pause, in seconds. -/
  idleTimeout : Count := 600
  /-- How long connecting may take, in seconds. -/
  connectTimeout : Count := 30
  /-- The least time between two reports of usage, in milliseconds. -/
  usageThrottle : Count := 200
  /-- What the client shows to be let in. -/
  bearerToken : Option String := none
  deriving DecidableEq, Repr

namespace Config

/-! ## The environment -/

/-- The variable with the address of the server. -/
def serverVariable : String := "TURNWISE_SERVER_URL"

/-- The variable with the token. -/
def tokenVariable : String := "TURNWISE_TOKEN"

/-- What a variable says, trimmed; a blank one says nothing. -/
def said? (value : Option String) : Option String :=
  (value.filter fun text => !Text.isBlank text).map Text.trim

/-- Take over what the environment says. -/
def override (c : Config) (lookup : String → Option String) : Config :=
  { c with
    serverUrl := (said? (lookup serverVariable)).getD c.serverUrl
    bearerToken := said? (lookup tokenVariable) <|> c.bearerToken }

/-! ## Validity -/

/-- What makes a configuration unusable. -/
inductive Fault where
  | noServer
  /-- The address is of another kind. -/
  | notHttp (serverUrl : String)
  /-- The path with this name does not start with a slash. -/
  | relativePath (name path : String)
  | noPatience
  deriving DecidableEq, Repr

/-- The wording of a fault. -/
def Fault.message : Fault → String
  | .noServer => "server_url must not be empty"
  | .notHttp url => "server_url must be http(s): " ++ url
  | .relativePath name path => name ++ " must start with '/': " ++ path
  | .noPatience => "timeouts must be greater than zero"

/-- Whether a text starts with another. -/
def startsWith (start text : String) : Bool :=
  start.toList.isPrefixOf text.toList

/-- Whether an address is one of the web. -/
def isHttp (url : String) : Bool :=
  startsWith "http://" url || startsWith "https://" url

/-- The paths with their names. -/
def paths (c : Config) : List (String × String) :=
  [("chat_path", c.chatPath), ("approval_path", c.approvalPath), ("stop_path", c.stopPath),
    ("conversation_path", c.conversationPath)]

/-- The first path that does not start with a slash. -/
def relativePath? (c : Config) : Option (String × String) :=
  c.paths.find? fun (_, path) => !startsWith "/" path

/-- The first fault of a configuration. -/
def fault? (c : Config) : Option Fault :=
  if Text.isBlank c.serverUrl then some .noServer
  else if !isHttp c.serverUrl then some (.notHttp c.serverUrl)
  else
    match c.relativePath? with
    | some (name, path) => some (.relativePath name path)
    | none =>
      if c.idleTimeout = 0 ∨ c.connectTimeout = 0 then some .noPatience else none

/-- Whether a configuration can be used. -/
def validate (c : Config) : Except Error Unit :=
  match c.fault? with
  | some fault => .error (.config fault.message)
  | none => .ok ()

/-! ## Addresses -/

/-- Replace a placeholder wherever it occurs, from the left. The fuel bounds the
    number of characters. -/
def substituteFrom (placeholder value : List Char) : Nat → List Char → List Char
  | 0, rest => rest
  | _ + 1, [] => []
  | fuel + 1, c :: rest =>
    if placeholder.isPrefixOf (c :: rest) then
      value ++ substituteFrom placeholder value fuel ((c :: rest).drop placeholder.length)
    else c :: substituteFrom placeholder value fuel rest

/-- A path with the encoded identifier for each placeholder. -/
def substitute (placeholder id path : String) : String :=
  String.ofList
    (substituteFrom placeholder.toList (Text.Percent.encode id).toList path.length path.toList)

/-- The address of the server without slashes at its end. -/
def base (c : Config) : String :=
  String.ofList ((c.serverUrl.toList.reverse.dropWhile (· == '/')).reverse)

/-- The address of a path. -/
def url (c : Config) (path : String) : String :=
  c.base ++ path

/-- The placeholder for a call. -/
def callPlaceholder : String := "\x7bcall_id\x7d"

/-- The placeholder for a conversation. -/
def conversationPlaceholder : String := "\x7bconversation_id\x7d"

/-- Where a new turn is asked for. -/
def chatUrl (c : Config) : String :=
  c.url c.chatPath

/-- Where a call is decided. -/
def approvalUrl (c : Config) (callId : String) : String :=
  c.url (substitute callPlaceholder callId c.approvalPath)

/-- Where a run is stopped. -/
def stopUrl (c : Config) : String :=
  c.url c.stopPath

/-- Where a stored conversation is. -/
def conversationUrl (c : Config) (conversationId : String) : String :=
  c.url (substitute conversationPlaceholder conversationId c.conversationPath)

end Config

end Dialogue
