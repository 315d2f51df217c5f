import Dialogue.Json.Value

/-!
# Number literals

What number a literal `-12.5e3` denotes.

An integer literal of at most 64 bits is that integer, except that `-0` is the
floating-point zero with its sign. Any other literal is a floating-point
number, found in three steps: as many leading digits as fit 64 bits make a
significand, the point and the exponent make a power of ten, and the rounded
significand is multiplied or divided once by the rounded power of ten. A
literal that is too large for the format denotes nothing.
-/

namespace Dialogue.Json

/-- The parts of a number literal, its digits as numbers. -/
structure Literal where
  /-- Whether a minus sign stands in front. -/
  negative : Bool
  /-- The digits before the point. -/
  whole : List Nat
  /-- The digits after the point, if there is one. -/
  fraction : Option (List Nat)
  /-- The sign of the exponent, true for plus, and its digits, if there is one. -/
  exponent : Option (Bool × List Nat)
  deriving DecidableEq, Repr

namespace Literal

/-- The largest natural of 64 bits. -/
def wordMax : Nat := 18446744073709551615

/-- The largest exponent that is told apart from larger ones. -/
def exponentMax : Nat := 2147483647

/-- Append digits to a natural while it stays below a limit; the digits that no
    longer fit are left over. -/
def accumulate (limit : Nat) (n : Nat) : List Nat → Nat × List Nat
  | [] => (n, [])
  | d :: ds => if n * 10 + d ≤ limit then accumulate limit (n * 10 + d) ds else (n, d :: ds)

/-- A number times a power of ten, given that the power is not too large for
    the format to hold on its own. -/
def scaleOnce? (x : Binary64) (power : Int) : Option Binary64 :=
  (Binary64.powerOfTen? power.natAbs).bind fun p =>
    if 0 ≤ power then Binary64.mul? x p else Binary64.div? x p

/-- The largest power of ten that the format holds. -/
def powerMax : Nat := 308

/-- A number times any power of ten. The fuel counts divisions by the largest
    power; two of them already reach zero. -/
def scale? : Nat → Binary64 → Int → Option Binary64
  | fuel, x, power =>
    if power.natAbs ≤ powerMax then scaleOnce? x power
    else if x.significand = 0 then some x
    else if 0 ≤ power then none
    else
      match fuel with
      | 0 => some (Binary64.zero false)
      | fuel + 1 => (scaleOnce? x (-powerMax)).bind fun y => scale? fuel y (power + powerMax)

/-- The floating-point number with a given significand and power of ten. -/
def float? (negative : Bool) (significand : Nat) (power : Int) : Option Number :=
  (Binary64.ofNat? significand).bind fun x =>
    (scale? 3 x power).map fun y => .float { y with negative }

/-- The number denoted by a literal, if it is not too large. -/
def number? (l : Literal) : Option Number :=
  let (significand, wholeRest) := accumulate wordMax 0 l.whole
  match l.fraction, l.exponent, wholeRest with
  | none, none, [] =>
    if !l.negative then some (.int significand)
    else if significand = 0 ∨ 9223372036854775808 < significand then
      float? true significand 0
    else some (.int (-significand))
  | fraction, exponent, _ =>
    let (significand, power) := match fraction with
      | none => (significand, (wholeRest.length : Int))
      | some digits =>
        let (s, rest) := accumulate wordMax significand digits
        (s, (wholeRest.length : Int) - (digits.length - rest.length : Nat))
    match exponent with
    | none => float? l.negative significand power
    | some (plus, digits) =>
      match accumulate exponentMax 0 digits with
      | (e, []) => float? l.negative significand (if plus then power + e else power - e)
      | (_, _ :: _) =>
        if significand ≠ 0 ∧ plus then none else some (.float (Binary64.zero l.negative))

end Literal

end Dialogue.Json
