import Dialogue.Error

/-!
# The input queue

Input that came while a turn was running, first in, first out. An entry may be
pulled out of order to be sent at once; a latch lets only one such entry be on
its way at a time.
-/

namespace Dialogue

/-- Queued input. -/
structure QueuedInput where
  id : String
  content : String
  /-- Milliseconds since the epoch. -/
  enqueuedAt : Int
  deriving DecidableEq, Repr

/-- The queue and its latch. -/
structure InputQueue where
  /-- The entries, the oldest first. -/
  entries : List QueuedInput := []
  /-- Whether an entry pulled out of order is on its way. -/
  immediate : Bool := false
  deriving DecidableEq, Repr

namespace InputQueue

/-- The queue with an entry at its end. -/
def enqueue (q : InputQueue) (entry : QueuedInput) : InputQueue :=
  { q with entries := q.entries ++ [entry] }

/-- Take out the first entry with an identifier. -/
def remove? (q : InputQueue) (id : String) : Option (QueuedInput × InputQueue) :=
  (q.entries.find? (·.id == id)).map fun entry =>
    (entry, { q with entries := q.entries.eraseP (·.id == id) })

/-- Take out the oldest entry. -/
def popFront? (q : InputQueue) : Option (QueuedInput × InputQueue) :=
  match q.entries with
  | [] => none
  | entry :: rest => some (entry, { q with entries := rest })

/-- Take an entry out of order, and the latch with it. -/
def takeImmediate (q : InputQueue) (id : String) : Except Error (QueuedInput × InputQueue) :=
  if q.immediate then .error .immediateInFlight
  else
    match q.remove? id with
    | none => .error (.noSuchEntry id)
    | some (entry, q) => .ok (entry, { q with immediate := true })

/-- Give the latch back. -/
def releaseImmediate (q : InputQueue) : InputQueue :=
  { q with immediate := false }

/-- Whether no entry waits. -/
def isEmpty (q : InputQueue) : Bool :=
  q.entries.isEmpty

end InputQueue

end Dialogue
