import Dialogue.Conversation
import Dialogue.Error
import Dialogue.EventStream.Pump
import Dialogue.Http.Request

/-!
# Answers of the server

What comes back for a request, and what a client makes of it: the events of a
turn (`Answer.events`), or a stored conversation (`Answer.conversation`). A turn
that cannot be opened is one failure, so an answer of whatever kind gives events of
which the last and no other ends the turn.
-/

namespace Dialogue.Http

/-- How the body of an answer ends. -/
inductive Ending where
  /-- It is complete. -/
  | complete
  /-- It breaks off. -/
  | broken
  /-- It stays open. -/
  | waiting
  deriving DecidableEq, Repr

/-- What comes back for a request. -/
inductive Answer where
  /-- The request cannot be sent at all. -/
  | unsendable (obstacle : HttpRequest.Obstacle)
  /-- There is no connection to an address. -/
  | unreachable (address : String)
  | response (status : Nat) (body : List UInt8) (ending : Ending)
  deriving DecidableEq, Repr

/-! ## Wording -/

/-- A request could not be put together. -/
def unsendableText : HttpRequest.Obstacle → String
  | .unreadable => "builder error"
  | .unusable address => "builder error for url (" ++ address ++ ")"

/-- A request could not be sent. -/
def unreachableText (address : String) : String :=
  "error sending request for url (" ++ address ++ ")"

/-- A body cannot be read. -/
def unreadableText : String := "error decoding response body"

namespace Answer

/-- Whether a status means success. -/
def isSuccess (status : Nat) : Bool :=
  200 ≤ status && status < 300

/-- The text of a refusal; one that breaks off has none. -/
def refusalText (body : List UInt8) : Ending → String
  | .complete => Text.Utf8.decodeLossy body
  | .broken | .waiting => ""

/-- The body of a response as it arrives. -/
def arriving (body : List UInt8) (ending : Ending) : EventStream.Body :=
  { arrivals := .octets body :: (if ending = .broken then [.failure unreadableText] else [])
    staysOpen := ending = .waiting }

/-- The body of a success, or why there is none. -/
def opened : Answer → Except Error EventStream.Body
  | .unsendable o => .error (.transport (unsendableText o))
  | .unreachable address => .error (.transport (unreachableText address))
  | .response status body ending =>
    if isSuccess status then .ok (arriving body ending)
    else .error (.http status (refusalText body ending))

/-- The events of a turn, given the longest wait for a frame in milliseconds. -/
def events (idle : Nat) (a : Answer) : List TurnEvent :=
  match a.opened with
  | .ok body => EventStream.events idle body
  | .error e => [.error e.message]

/-- The events of a turn that have come, and whether they end it. -/
def arrived (idle : Nat) (a : Answer) : List TurnEvent × Bool :=
  match a.opened with
  | .ok body =>
    match ({} : EventStream.Pump).run idle body.arrivals with
    | (sent, none) => (sent, true)
    | (sent, some p) =>
      if body.staysOpen then (sent, false) else (sent ++ [p.closing.event], true)
  | .error e => ([.error e.message], true)

/-- A stored conversation, or why there is none. -/
def conversation (conversationId : String) : Answer → Except Error Conversation
  | .unsendable o => .error (.transport (unsendableText o))
  | .unreachable address => .error (.transport (unreachableText address))
  | .response status body ending =>
    if status = 404 then .error (.noConversation conversationId)
    else if isSuccess status then
      match ending with
      | .complete =>
        match (Json.Tree.parseBytes? body).bind Conversation.ofTree? with
        | some c => .ok c
        | none => .error (.decode unreadableText)
      | .broken | .waiting => .error (.decode unreadableText)
    else .error (.http status (refusalText body ending))

end Answer

end Dialogue.Http
