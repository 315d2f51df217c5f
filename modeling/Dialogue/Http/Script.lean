import Dialogue.Http.Download

/-!
# A server for rehearsals

A server that needs no network: it answers the requests for turns and
conversations from a list, and every request to stop a run with the same status. It
keeps what it was asked.
-/

namespace Dialogue.Http

/-- A server that answers from a list. -/
structure Script where
  /-- The host and port at which it can be asked. -/
  authority : String
  /-- The answers not given yet. -/
  answers : List Answer
  /-- The status of answers to requests to stop a run. -/
  stopStatus : Nat := 200
  /-- Whether nobody listens. -/
  refuses : Bool := false
  /-- What was asked for, the oldest first. -/
  asked : List HttpRequest := []

namespace Script

/-- The path at which runs are stopped. -/
def stopTarget : String := "/agent/stop"

/-- The answer when the list is used up. -/
def usedUp : Answer :=
  .response 500 (Text.Utf8.encode "no response left") .complete

/-- Whether a request is for this server, and it listens. -/
def isAsked (s : Script) (r : HttpRequest) : Bool :=
  !s.refuses && r.url?.any fun u => u.scheme == "http" && u.authority == s.authority

/-- The answer to a request. -/
def answer (s : Script) (r : HttpRequest) : Answer × Script :=
  match r.obstacle? with
  | some o => (.unsendable o, s)
  | none =>
    if s.isAsked r then
      let s := { s with asked := s.asked ++ [r] }
      if r.target = stopTarget then
        (Answer.received r.address (.response s.stopStatus [] .complete), s)
      else
        match s.answers with
        | [] => (usedUp, s)
        | a :: rest => (a.received r.address, { s with answers := rest })
    else (.unreachable r.address, s)

end Script

end Dialogue.Http
