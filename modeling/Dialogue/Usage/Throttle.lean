/-!
# Throttling

At most one showing per interval. Only what is shown is throttled, never what
is accounted. A clock that goes backwards counts as one that stands still.
-/

namespace Dialogue

/-- An interval and the time of the last showing. -/
structure Throttle where
  /-- The least time between two showings, in milliseconds. -/
  interval : Nat
  /-- The time of the last showing since the start or the last reset. -/
  last : Option Nat := none
  deriving DecidableEq, Repr

namespace Throttle

/-- Whether the last showing is at least the interval ago, or there was none. -/
def isDue (t : Throttle) (now : Nat) : Bool :=
  match t.last with
  | some last => t.interval ≤ now - last
  | none => true

/-- Ask to show something at a time; if it is due, it is noted as shown. -/
def ask (t : Throttle) (now : Nat) : Bool × Throttle :=
  if t.isDue now then (true, { t with last := some now }) else (false, t)

/-- Forget the last showing. -/
def reset (t : Throttle) : Throttle :=
  { t with last := none }

end Throttle

end Dialogue
