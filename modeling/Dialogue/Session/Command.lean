import Dialogue.Conversation
import Dialogue.Session.Step

/-!
# Driving a session

Commands, events and time as one kind of input (`Input`), so that a history of a
session is a list of inputs: `Session.react` takes one, `Session.run` takes a
list. A state that some list leads to is `Session.Reachable`.

`Service` is a session as its callers have it: it can be closed, after which
every command is refused, and it may have somewhere to load its conversation
from.
-/

namespace Dialogue

/-- What a caller asks of a session. -/
inductive Command where
  | submit (content : String)
  | startTurn (content : String)
  | submitNow (id : String)
  | removeQueued (id : String)
  | cancel
  | decideSingle (callId : String) (approve : Bool) (reason : Option String)
  | decideBulk (decision : Decision)
  | hydrate (messages : List Message)
  | snapshot
  | shutdown
  deriving DecidableEq, Repr

/-- What a caller is told. -/
inductive Reply where
  | submitted (outcome : Session.Submitted)
  | done
  | entry (entry : QueuedInput)
  | flag (value : Bool)
  | progress (progress : Progress)
  | snapshot (snapshot : Snapshot)
  deriving DecidableEq, Repr

/-- What happens to a session. -/
inductive Input where
  | command (c : Command)
  | event (e : Envelope)
  | elapse (time : Nat)
  deriving DecidableEq, Repr

namespace Session

/-- Do what a caller asks. -/
def perform (s : Session) : Command → Except Error Reply × Session
  | .submit content => let (r, s) := s.submit content; (r.map .submitted, s)
  | .startTurn content => let (r, s) := s.startTurn content; (r.map fun _ => .done, s)
  | .submitNow id => let (r, s) := s.submitNow id; (r.map fun _ => .done, s)
  | .removeQueued id => let (r, s) := s.removeQueued id; (r.map .entry, s)
  | .cancel => let (b, s) := s.cancel; (.ok (.flag b), s)
  | .decideSingle callId approve reason =>
    let (r, s) := s.decideSingle callId approve reason
    (r.map fun _ => .done, s)
  | .decideBulk decision => let (r, s) := s.decideBulk decision; (r.map .progress, s)
  | .hydrate messages => let (b, s) := s.hydrate messages; (.ok (.flag b), s)
  | .snapshot => (.ok (.snapshot s.snapshot), s)
  | .shutdown => (.ok .done, s.shutdown)

/-- Take an input. Only a command has a reply. -/
def react (s : Session) : Input → Option (Except Error Reply) × Session
  | .command c => let (r, s) := s.perform c; (some r, s)
  | .event e => (none, s.handle e)
  | .elapse time => (none, s.elapse time)

/-- Take inputs in order. -/
def run (s : Session) (inputs : List Input) : Session :=
  inputs.foldl (fun s i => (s.react i).2) s

/-- A session that has come from its start by some inputs. -/
def Reachable (s : Session) : Prop :=
  ∃ conversationId interval now ids inputs,
    s = (start conversationId interval now ids).run inputs

/-- Take over a conversation that was fetched, or what came of fetching it. That
    there is none is no error. -/
def takeFetched (s : Session) (fetched : Except Error Conversation) :
    Except Error Bool × Session :=
  match fetched with
  | .error (.notFound _) => (.ok false, s)
  | .error e => (.error e, s)
  | .ok c =>
    let (messages, ids) := c.toMessages s.ids s.now
    let (b, s) := hydrate { s with ids } messages
    (.ok b, s)

end Session

/-- A session as its callers have it. -/
structure Service where
  session : Session
  /-- Whether it has been closed. -/
  closed : Bool := false
  /-- Whether there is somewhere to load the conversation from. -/
  hasStore : Bool := false

namespace Service

/-- Do what a caller asks, unless the session is closed. -/
def perform (s : Service) (c : Command) : Except Error Reply × Service :=
  if s.closed then (.error .sessionClosed, s)
  else
    let (r, session) := s.session.perform c
    (r, { s with session, closed := c == .shutdown })

/-- Whether loading the conversation comes to asking for it. -/
def wouldFetch (s : Service) : Bool :=
  !s.closed && s.hasStore && s.session.canHydrate

/-- Load the conversation, given what comes of asking for it. -/
def hydrate (s : Service) (fetched : Except Error Conversation) :
    Except Error Bool × Service :=
  if s.closed then (.error .sessionClosed, s)
  else if !s.hasStore then (.error .noStore, s)
  else if !s.session.canHydrate then (.ok false, s)
  else
    let (r, session) := s.session.takeFetched fetched
    (r, { s with session })

/-- An event of some stream; a closed session drops it. -/
def deliver (s : Service) (e : Envelope) : Service :=
  if s.closed then s else { s with session := s.session.handle e }

end Service

end Dialogue
