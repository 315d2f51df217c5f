/-!
# Floating-point numbers in base two

The finite numbers of the 64-bit format, held exactly: a sign, a significand
below `2^53` and a power of two that is at least `2^(-1074)`. Arithmetic is
done on the exact quotient and rounded once, to the nearest number and on a tie
to the even significand (`ofQuotient?`).
-/

namespace Dialogue

/-- The number `± significand * 2^exponent`. -/
structure Binary64 where
  /-- Whether the sign is minus; zero has both signs. -/
  negative : Bool
  /-- The significand, below `2^53`. -/
  significand : Nat
  /-- The power of two; `-1074` unless the significand needs all 53 bits. -/
  exponent : Int
  deriving DecidableEq, Repr

namespace Binary64

/-- The smallest power of two. -/
def minExponent : Int := -1074

/-- The largest power of two. -/
def maxExponent : Int := 971

/-- Zero, with a sign. -/
def zero (negative : Bool) : Binary64 :=
  ⟨negative, 0, minExponent⟩

/-- A quotient rounded to the nearest whole number, a tie to the even one. -/
def roundToEven (num den : Nat) : Nat :=
  let q := num / den
  let r := num % den
  if 2 * r < den then q
  else if den < 2 * r then q + 1
  else if q % 2 = 0 then q else q + 1

/-- `num / den` multiplied by `2^(-e)`, as numerator and denominator. -/
def scaleDown (num den : Nat) (e : Int) : Nat × Nat :=
  if e < 0 then (num * Nat.pow 2 (-e).toNat, den) else (num, den * Nat.pow 2 e.toNat)

/-- The number nearest to a quotient of naturals; nothing if it is too large
    for the format. -/
def ofQuotient? (negative : Bool) (num den : Nat) : Option Binary64 :=
  if num = 0 ∨ den = 0 then some (zero negative)
  else
    -- The quotient lies strictly between `2^(k-1)` and `2^(k+1)`.
    let k : Int := (Nat.log2 num : Int) - (Nat.log2 den : Int)
    let (n₀, d₀) := scaleDown num den k
    let e := max minExponent (if n₀ < d₀ then k - 53 else k - 52)
    let (n, d) := scaleDown num den e
    let m := roundToEven n d
    let (m, e) := if m = 9007199254740992 then (4503599627370496, e + 1) else (m, e)
    if maxExponent < e then none else some ⟨negative, m, e⟩

/-- The exact value without its sign, as numerator and denominator. -/
def toQuotient (x : Binary64) : Nat × Nat :=
  if x.exponent < 0 then (x.significand, Nat.pow 2 (-x.exponent).toNat)
  else (x.significand * Nat.pow 2 x.exponent.toNat, 1)

/-- The number nearest to a natural. -/
def ofNat? (n : Nat) : Option Binary64 :=
  ofQuotient? false n 1

/-- The product without signs. -/
def mul? (x y : Binary64) : Option Binary64 :=
  let (n₁, d₁) := x.toQuotient
  let (n₂, d₂) := y.toQuotient
  ofQuotient? false (n₁ * n₂) (d₁ * d₂)

/-- The quotient without signs. -/
def div? (x y : Binary64) : Option Binary64 :=
  let (n₁, d₁) := x.toQuotient
  let (n₂, d₂) := y.toQuotient
  ofQuotient? false (n₁ * d₂) (d₁ * n₂)

/-- The number nearest to a power of ten. -/
def powerOfTen? (k : Nat) : Option Binary64 :=
  ofQuotient? false (Nat.pow 10 k) 1

/-- Whether the value is below zero; a zero is not, whatever its sign. -/
def isBelowZero (x : Binary64) : Bool :=
  x.negative && x.significand != 0

/-- The magnitude rounded to a whole number, a half away from zero. -/
def roundHalfUp (x : Binary64) : Nat :=
  let (n, d) := x.toQuotient
  (2 * n + d) / (2 * d)

end Binary64

end Dialogue
