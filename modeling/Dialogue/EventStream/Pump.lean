import Dialogue.EventStream.Frame
import Dialogue.Event.Decode

/-!
# From a body to turn events

The body of an answer arrives in pieces, with pauses between them, and may break.
`Pump` reads its frames and sends the turn events among them in order, up to the
first terminal one. If none comes before the body ends, breaks or lets more time
pass between two frames than it may, one failure is sent in its place. So what is
sent is always some events that end nothing and then one that ends the turn
(`events`).

Every frame counts against the clock, also one that is no event or cannot be
used, and a frame that comes exactly in time is in time.
-/

namespace Dialogue.EventStream

/-- What happens on the way of a body. -/
inductive Arrival where
  /-- Octets arrive. -/
  | octets (bs : List UInt8)
  /-- The body breaks. -/
  | failure (message : String)
  /-- Time passes, in milliseconds. -/
  | pause (time : Nat)
  deriving DecidableEq, Repr

/-- A body: what arrives, and whether it then stays open instead of ending. -/
structure Body where
  arrivals : List Arrival
  staysOpen : Bool := false
  deriving DecidableEq, Repr

/-- Why a stream failed on its own. -/
inductive Failure where
  /-- It ended before the turn did. -/
  | closed
  /-- It ended with octets that are no text. -/
  | notText (fault : Text.Utf8.Fault)
  /-- It broke. -/
  | broken (message : String)
  /-- No frame came for a time, in milliseconds. -/
  | idle (time : Nat)
  deriving DecidableEq, Repr

/-- The wording of a failure. -/
def Failure.message : Failure → String
  | .closed => "SSE stream closed before turn completed"
  | .notText fault => "SSE stream error: UTF8 error: " ++ fault.message
  | .broken message => "SSE stream error: Transport error: " ++ message
  | .idle time => "SSE stream timeout after " ++ toString (time / 1000) ++ "s"

/-- The failure as an event. -/
def Failure.event (f : Failure) : TurnEvent :=
  .error f.message

namespace Frame

/-- The turn event of a frame. A frame without a name of its own is none. -/
def event? (f : Frame) : Option TurnEvent :=
  if f.event = "message" then none
  else
    match TurnEvent.decode f.event f.data with
    | .event e => some e
    | _ => none

end Frame

/-- The events up to the first terminal one, and whether there is one. -/
def upToTerminal : List TurnEvent → List TurnEvent × Bool
  | [] => ([], false)
  | e :: es =>
    if e.isTerminal then ([e], true)
    else
      let (sent, ended) := upToTerminal es
      (e :: sent, ended)

/-- A stream being read. -/
structure Pump where
  reader : Reader := {}
  /-- The time since the last frame, in milliseconds. -/
  waited : Nat := 0
  deriving DecidableEq, Repr

namespace Pump

/-- What an arrival makes the pump send, and the pump if it goes on. -/
def step (idle : Nat) (p : Pump) : Arrival → List TurnEvent × Option Pump
  | .octets bs =>
    let (reader, frames) := p.reader.feed bs
    let (sent, ended) := upToTerminal (frames.filterMap Frame.event?)
    (sent, if ended then none
      else some { reader, waited := if frames.isEmpty then p.waited else 0 })
  | .failure message => ([(Failure.broken message).event], none)
  | .pause time =>
    if idle < p.waited + time then ([(Failure.idle idle).event], none)
    else ([], some { p with waited := p.waited + time })

/-- What arrivals make the pump send, and the pump if it goes on. -/
def run (idle : Nat) (p : Pump) : List Arrival → List TurnEvent × Option Pump
  | [] => ([], some p)
  | a :: rest =>
    match p.step idle a with
    | (sent, none) => (sent, none)
    | (sent, some p) =>
      let (more, p) := p.run idle rest
      (sent ++ more, p)

/-- The failure of a body that ended. -/
def closing (p : Pump) : Failure :=
  match p.reader.decoder.fault? with
  | some fault => .notText fault
  | none => .closed

/-- The failure when nothing more arrives: the end of the body, or the end of
    the wait if it stays open. -/
def ending (idle : Nat) (p : Pump) (staysOpen : Bool) : Failure :=
  if staysOpen then .idle idle else p.closing

end Pump

/-- The events that a body sends, given the longest wait for a frame in
    milliseconds. -/
def events (idle : Nat) (body : Body) : List TurnEvent :=
  match ({} : Pump).run idle body.arrivals with
  | (sent, none) => sent
  | (sent, some p) => sent ++ [(p.ending idle body.staysOpen).event]

/-- What reaches a receiver: nothing once it is gone. -/
def received (listening : Bool) (sent : List TurnEvent) : List TurnEvent :=
  if listening then sent else []

end Dialogue.EventStream
