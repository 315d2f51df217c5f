import Dialogue.Number.Binary64

/-!
# The shortest decimal that reads back

`shortest` finds the fewest decimal digits whose nearest number of the 64-bit
format is the given one, and of those digits the nearest to it. For 1, 2, …, 17
digits it tries the two neighbours of the value on that decimal grid: if any
point of the grid reads back, one of the two does.

`toText` writes them: positional between `0.00001` and `9999999999999999.0`,
always with a point, and otherwise with one digit before the point and a signed
exponent.
-/

namespace Dialogue.Binary64

/-- The power of ten at or below a positive quotient. -/
def floorLog10 (num den : Nat) : Int :=
  let guess : Int := ((Nat.toDigits 10 num).length : Int) - (Nat.toDigits 10 den).length
  let atLeast (k : Int) : Bool :=
    if k < 0 then den ≤ num * Nat.pow 10 (-k).toNat else den * Nat.pow 10 k.toNat ≤ num
  if atLeast guess then guess else guess - 1

/-- `digits * 10^scale` as numerator and denominator. -/
def decimalQuotient (digits : Nat) (scale : Int) : Nat × Nat :=
  if scale < 0 then (digits, Nat.pow 10 (-scale).toNat) else (digits * Nat.pow 10 scale.toNat, 1)

/-- Whether the nearest number to `digits * 10^scale` is the magnitude of `x`. -/
def readsBack (x : Binary64) (digits : Nat) (scale : Int) : Bool :=
  let (n, d) := decimalQuotient digits scale
  ofQuotient? false n d == some { x with negative := false }

/-- The neighbour with `count` digits that reads back, the nearer of two. -/
def withDigits? (x : Binary64) (count : Nat) : Option (Nat × Int) :=
  let (num, den) := x.toQuotient
  let scale := floorLog10 num den - (count - 1 : Nat)
  -- The value divided by `10^scale`.
  let (n, d) := if scale < 0 then (num * Nat.pow 10 (-scale).toNat, den)
    else (num, den * Nat.pow 10 scale.toNat)
  let low := n / d
  let lowReads := readsBack x low scale
  let highReads := readsBack x (low + 1) scale
  if lowReads && highReads then
    some (if 2 * (n % d) ≤ d then low else low + 1, scale)
  else if lowReads then some (low, scale)
  else if highReads then some (low + 1, scale)
  else none

/-- The fewest digits that read back, and the power of ten of the last one. -/
def shortest (x : Binary64) : Nat × Int :=
  if x.significand = 0 then (0, 0)
  else ((List.range 17).findSome? fun i => withDigits? x (i + 1)).getD (0, 0)

/-- Digits with the point after the first `point` of them. -/
def positional (digits : List Char) (point : Int) : List Char :=
  if point ≤ 0 then '0' :: '.' :: (List.replicate (-point).toNat '0' ++ digits)
  else
    let point := point.toNat
    if digits.length ≤ point then
      digits ++ List.replicate (point - digits.length) '0' ++ ['.', '0']
    else digits.take point ++ '.' :: digits.drop point

/-- Digits with a point after the first, and an exponent with its sign. -/
def scientific (digits : List Char) (exponent : Int) : List Char :=
  let fraction := if digits.length ≤ 1 then [] else '.' :: digits.drop 1
  let sign := if exponent < 0 then '-' else '+'
  digits.take 1 ++ fraction ++ 'e' :: sign :: Nat.toDigits 10 exponent.natAbs

/-- Digits without the zeros at their end. -/
def dropTrailingZeros (digits : List Char) : List Char :=
  (digits.reverse.dropWhile (· == '0')).reverse

/-- The number as text. -/
def toText (x : Binary64) : String :=
  let sign := if x.negative then "-" else ""
  if x.significand = 0 then sign ++ "0.0"
  else
    let (value, scale) := x.shortest
    let digits := Nat.toDigits 10 value
    let point : Int := digits.length + scale
    let digits := dropTrailingZeros digits
    let body := if -5 < point ∧ point ≤ 16 then positional digits point
      else scientific digits (point - 1)
    sign ++ String.ofList body

end Dialogue.Binary64
