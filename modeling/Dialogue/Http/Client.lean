import Dialogue.Http.Script
import Dialogue.Session.Command

/-!
# A session over the web

A session whose streams are asked for at a server. What the server answers at once
is delivered before anything else happens, so after each step the session waits
for its caller, or for a stream that stays open.

A server is a state with a rule how it answers (`Server`); `Client.perform` and
`Client.hydrate` are what a caller may do.
-/

namespace Dialogue.Http

/-- How a server with a state answers. -/
structure Server (σ : Type) where
  answer : σ → HttpRequest → Answer × σ

/-- The server that answers from a list. -/
def Script.server : Server Script := ⟨Script.answer⟩

/-- A session and its server. -/
structure Client (σ : Type) where
  config : Config
  service : Service
  server : σ

namespace Client

variable {σ : Type}

/-- A client for a conversation, if the configuration can be used. -/
def start (c : Config) (conversationId : String) (now : Nat) (ids : Ids) (server : σ) :
    Except Error (Client σ) :=
  match c.validate with
  | .error e => .error e
  | .ok () =>
    .ok
      { config := c
        service :=
          { session := Session.start conversationId c.usageThrottle.val now ids
            hasStore := true }
        server }

/-- The longest wait for a frame, in milliseconds. -/
def idle (c : Client σ) : Nat :=
  c.config.idleTimeout.val * 1000

/-- Deliver the events of a stream. -/
def deliver (c : Client σ) (generation : Nat) (events : List TurnEvent) : Client σ :=
  { c with
    service := events.foldl (fun s e => s.deliver ⟨generation, e⟩) c.service }

/-- The first stream that effects open, and how many effects there are up to it. -/
def firstOpening? : List Effect → Option ((Nat × Request) × Nat)
  | [] => none
  | .opened generation request :: _ => some ((generation, request), 1)
  | _ :: rest => (firstOpening? rest).map fun (stream, n) => (stream, n + 1)

/-- Ask for the streams that effects after the first `done` open, and deliver what
    comes of them, which may open further streams. The fuel bounds their number. -/
def follow (server : Server σ) (fuel done : Nat) (c : Client σ) : Client σ :=
  match fuel with
  | 0 => c
  | fuel + 1 =>
    match firstOpening? (c.service.session.outbox.drop done) with
    | none => c
    | some ((generation, request), n) =>
      let (answer, state) := server.answer c.server (.ofTurn c.config request)
      let c := deliver { c with server := state } generation (answer.arrived c.idle).1
      follow server fuel (done + n) c

/-- How many streams can be opened without a caller: the ones opened already, one
    for each queued input and one for each call that a bulk decision still has. -/
def mayOpen (c : Client σ) : Nat :=
  let s := c.service.session
  (Effect.openings s.outbox).length + s.queue.entries.length + s.approvals.waiting.length

/-- Send the requests to stop runs that effects make. -/
def sendStops (server : Server σ) (effects : List Effect) (c : Client σ) : Client σ :=
  { c with
    server := (Effect.stops effects).foldl
      (fun state (conversationId, runId) =>
        (server.answer state (.ofStop c.config conversationId runId)).2) c.server }

/-- Deliver all that comes at once, and collect what was done to the outside. -/
def settle (server : Server σ) (c : Client σ) : List Effect × Client σ :=
  let c := follow server (mayOpen c) 0 c
  let c := sendStops server c.service.session.outbox c
  let (effects, session) := c.service.session.collect
  (effects, { c with service := { c.service with session } })

/-- Do what a caller asks. -/
def perform (c : Client σ) (command : Command) : Except Error Reply × Client σ :=
  let (reply, service) := c.service.perform command
  (reply, { c with service })

/-- Load the conversation from the server, if that comes to asking for it. -/
def hydrate (server : Server σ) (c : Client σ) : Except Error Bool × Client σ :=
  let conversationId := c.service.session.conversationId
  let (fetched, state) :=
    if c.service.wouldFetch then
      let (answer, state) := server.answer c.server (.ofConversation c.config conversationId)
      (answer.conversation conversationId, state)
    else (.error (.noConversation conversationId), c.server)
  let (taken, service) := c.service.hydrate fetched
  (taken, { c with service, server := state })

end Client

end Dialogue.Http
