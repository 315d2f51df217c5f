import Dialogue.Config
import Dialogue.Http.Url
import Dialogue.Message.Json
import Dialogue.Session
import Dialogue.Text.Base64

/-!
# Requests to the server

What a client sends for a turn, for the decision of a call, to stop a run and to
load a stored conversation. Of the messages of a conversation only who wrote them
and what they say is sent.
-/

namespace Dialogue

open Json

/-- How a request is made. -/
inductive Method where
  | get
  | post
  deriving DecidableEq, Repr

/-- The name of a method. -/
def Method.name : Method → String
  | .get => "GET"
  | .post => "POST"

/-- A request to the server. -/
structure HttpRequest where
  method : Method
  url : String
  headers : List (String × String)
  body : Option Value
  deriving DecidableEq, Repr

namespace HttpRequest

/-! ## Headers -/

/-- The header that lets a client in, if it has a token. -/
def authorization (c : Config) : List (String × String) :=
  match c.bearerToken with
  | some token => [("authorization", "Bearer " ++ token)]
  | none => []

/-- The header that tells who asks, if an address does. -/
def credentials (address : String) : List (String × String) :=
  match (Http.Url.parse? address).bind (·.credentials?) with
  | some (user, password) =>
    let octets := Text.Utf8.encode (user ++ ":" ++ password.getD "")
    [("authorization", "Basic " ++ String.ofList (Text.Base64.encode octets))]
  | none => []

/-- The body is JSON. -/
def jsonContent : String × String := ("content-type", "application/json")

/-- Any kind of answer will do. -/
def acceptAny : String × String := ("accept", "*/*")

/-- The headers of a request for a stream. -/
def streamHeaders (c : Config) : List (String × String) :=
  [("accept", "text/event-stream"), ("cache-control", "no-cache"), jsonContent] ++
    authorization c

/-- Whether a text can be the value of a header: it has no control characters but
    the tab. -/
def isHeaderValue (s : String) : Bool :=
  s.toList.all fun c => c == '\t' || (0x20 ≤ c.toNat && c.toNat != 0x7F)

/-! ## Bodies -/

/-- A message as the server gets it. -/
def messageBody (m : Message) : Value :=
  .ofMembers [("role", m.role.toJson), ("content", .string m.content)]

/-- The body of a request for a turn. -/
def turnBody : Request → Value
  | .newTurn conversationId messages =>
    .ofMembers
      [("messages", .array (messages.map messageBody)),
        ("conversation_id", .string conversationId)]
  | .approvalContinuation conversationId _ approve reason =>
    .ofMembers <|
      [("approve", .bool approve), ("conversation_id", .string conversationId)] ++
        (reason.map fun r => ("reason", .string r)).toList

/-! ## Requests -/

/-- Where a turn is asked for. -/
def turnUrl (c : Config) : Request → String
  | .newTurn .. => c.chatUrl
  | .approvalContinuation _ callId _ _ => c.approvalUrl callId

/-- The request for a turn. -/
def ofTurn (c : Config) (r : Request) : HttpRequest :=
  let url := turnUrl c r
  { method := .post
    url := url
    headers := credentials url ++ streamHeaders c
    body := some (turnBody r) }

/-- The request to stop a run. -/
def ofStop (c : Config) (conversationId runId : String) : HttpRequest :=
  { method := .post
    url := c.stopUrl
    headers := credentials c.stopUrl ++ [acceptAny, jsonContent] ++ authorization c
    body := some (.ofMembers
      [("conversation_id", .string conversationId), ("run_id", .string runId)]) }

/-- The request for a stored conversation. -/
def ofConversation (c : Config) (conversationId : String) : HttpRequest :=
  let url := c.conversationUrl conversationId
  { method := .get
    url := url
    headers := credentials url ++ acceptAny :: authorization c
    body := none }

/-- The parts of the address that is asked for. -/
def url? (r : HttpRequest) : Option Http.Url :=
  (Http.Url.parse? r.url).map (·.bare)

/-- Why a request cannot be sent. -/
inductive Obstacle where
  /-- Its address or a header cannot be read. -/
  | unreadable
  /-- No server can be asked for what is at its address. -/
  | unusable (address : String)
  deriving DecidableEq, Repr

/-- Why a request cannot be sent, if it cannot. -/
def obstacle? (r : HttpRequest) : Option Obstacle :=
  match r.url? with
  | none => some .unreadable
  | some u =>
    if !r.headers.all fun (_, value) => isHeaderValue value then some .unreadable
    else if u.isSendable then none
    else some (.unusable u.text)

/-- What the request asks for, as the server sees it. -/
def target (r : HttpRequest) : String :=
  (r.url?.map (·.target)).getD ""

/-- The value of a header as the server sees it, without the spaces and tabs around
    it. -/
def seenValue (value : String) : String :=
  let drop (cs : List Char) := cs.dropWhile fun c => c == ' ' || c == '\t'
  String.ofList (drop (drop value.toList).reverse).reverse

/-- A request as a record. -/
def toJson (r : HttpRequest) : Value :=
  .ofMembers
    [("method", .string r.method.name), ("path", .string r.target),
      ("headers", .ofMembers (r.headers.map fun (name, value) =>
        (name, .string (seenValue value)))),
      ("body", r.body.getD .null)]

/-- The address in its usual form. -/
def address (r : HttpRequest) : String :=
  (r.url?.map (·.text)).getD r.url

end HttpRequest

end Dialogue
