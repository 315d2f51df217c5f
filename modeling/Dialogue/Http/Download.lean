import Dialogue.Http.Answer
import Dialogue.Http.Wire

/-!
# Answers on the wire

What a connection brings, taken in packet by packet. `Answer.ofReading` is the
answer to a request once nothing more comes; `Answer.received` is what an answer comes
to that is sent in full; `Download.step` is for the request for a turn, whose events
are passed on while the answer is still coming.
-/

namespace Dialogue.Http

/-- How an answer ends when nothing more comes. -/
def Reading.ending (r : Reading) : Ending :=
  if r.mayClose then .complete else .broken

/-- The answer that comes from an address, given the octets of its body. -/
def Answer.ofReading (address : String) (r : Reading) (body : List UInt8) : Answer :=
  match r.status? with
  | some status => .response status body r.ending
  | none => .unreachable address

/-- The answer that comes from an address when an answer is sent there. Of one whose
    status tells that it has no body, no body is read; one that only goes before
    another is passed over, and what its body would be is read as that other. A status
    that is none makes it no answer. -/
def Answer.received (address : String) : Answer → Answer
  | .response status body ending =>
    if !Head.isStatus status then .unreachable address
    else if Head.isPassing status then
      let (reading, body) := (Reading.head []).feed body
      if reading.isOver || ending ≠ .waiting then .ofReading address reading body
      else
        match reading.status? with
        | some status => .response status body .waiting
        | none => .unreachable address
    else if Head.isBodiless status then .response status [] .complete
    else .response status body ending
  | a => a

/-- What a connection brings. -/
inductive Packet where
  | octets (bs : List UInt8)
  /-- Its end. -/
  | closed
  /-- Nothing for a time, in milliseconds. -/
  | pause (time : Nat)
  deriving DecidableEq, Repr

/-- The answer to the request for a turn while it is coming. -/
structure Download where
  reading : Reading := .head []
  pump : EventStream.Pump := {}
  /-- What a refusal says. -/
  refusal : List UInt8 := []
  deriving DecidableEq, Repr

namespace Download

/-- Whether the answer is one with events, as far as is known. -/
def isStream (d : Download) : Bool :=
  d.reading.status?.any Answer.isSuccess

/-- The time that may still pass, in milliseconds; without an end before the events
    begin. -/
def patience? (idle : Nat) (d : Download) : Option Nat :=
  if d.isStream then some (idle - d.pump.waited) else none

/-- The event that ends the turn when nothing more comes. -/
def lastEvent (address : String) (d : Download) : TurnEvent :=
  match (Answer.ofReading address d.reading d.refusal).opened with
  | .error e => .error e.message
  | .ok _ =>
    match d.reading.ending with
    | .complete => d.pump.closing.event
    | _ => (EventStream.Failure.broken unreadableText).event

/-- Take in a packet: the events that come of it, and the download if it goes on. -/
def step (idle : Nat) (address : String) (d : Download) : Packet →
    List TurnEvent × Option Download
  | .octets bs =>
    let (reading, body) := d.reading.feed bs
    let d := { d with reading }
    let (sent, next) :=
      if d.isStream then
        let (sent, pump) := d.pump.step idle (.octets body)
        (sent, pump.map fun pump => { d with pump })
      else ([], some { d with refusal := d.refusal ++ body })
    match next with
    | none => (sent, none)
    | some d =>
      if d.reading.isOver then (sent ++ [d.lastEvent address], none) else (sent, some d)
  | .closed => ([d.lastEvent address], none)
  | .pause time =>
    if d.isStream then
      let (sent, pump) := d.pump.step idle (.pause time)
      (sent, pump.map fun pump => { d with pump })
    else ([], some d)

end Download

end Dialogue.Http
