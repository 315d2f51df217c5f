import Dialogue.Event
import Dialogue.Session

/-!
# Delivery of a stream

Between an answer and the session that asked for it stand two hands and a switch.
One hand reads the answer and puts its events on a belt, the other takes them off
and gives them to the session, each stamped with the generation of the stream.
Whoever holds the stream may throw the switch at any time, and more than once; the
reading hand looks at it before it reads on. If it finds it thrown, it puts a last
failure on the belt and goes; if it has put the end of the turn there, it goes too.

Who moves when is not fixed: `Delivery.run` takes any order of moves.
-/

namespace Dialogue.EventStream

/-- The failure of a stream that was given up. -/
def givenUp : TurnEvent :=
  .error "turn stream cancelled"

/-- A stream on its way. -/
structure Delivery where
  generation : Nat
  /-- The events that are still to be read, the end of the turn last. -/
  unread : List TurnEvent
  /-- The events on the belt, the oldest first. -/
  belt : List TurnEvent := []
  /-- What was given to the session, the oldest first. -/
  delivered : List Envelope := []
  /-- Whether the switch was thrown. -/
  cancelled : Bool := false
  /-- Whether the reading hand is gone. -/
  finished : Bool := false
  deriving DecidableEq, Repr

/-- A move. -/
inductive Move where
  /-- The switch is thrown. -/
  | cancel
  /-- The reading hand looks at the switch and reads on, this many events at most. -/
  | read (count : Nat)
  /-- The other hand takes an event from the belt. -/
  | forward
  deriving DecidableEq, Repr

namespace Delivery

/-- The stream of a generation that will bring events. -/
def start (generation : Nat) (events : List TurnEvent) : Delivery :=
  { generation, unread := events }

/-- Make a move. -/
def step (d : Delivery) : Move → Delivery
  | .cancel => { d with cancelled := true }
  | .read count =>
    if d.finished then d
    else if d.cancelled then { d with belt := d.belt ++ [givenUp], finished := true }
    else
      { d with
        unread := d.unread.drop count
        belt := d.belt ++ d.unread.take count
        finished := (d.unread.drop count).isEmpty }
  | .forward =>
    match d.belt with
    | [] => d
    | e :: rest => { d with belt := rest, delivered := d.delivered ++ [⟨d.generation, e⟩] }

/-- Make moves in order. -/
def run (d : Delivery) (moves : List Move) : Delivery :=
  moves.foldl step d

/-- Whether the stream is over: the reading hand is gone and the belt empty. -/
def isOver (d : Delivery) : Bool :=
  d.finished && d.belt.isEmpty

/-- Take everything from the belt. -/
def flush (d : Delivery) : Delivery :=
  d.run (List.replicate d.belt.length .forward)

end Delivery

end Dialogue.EventStream
