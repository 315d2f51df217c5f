/-!
# Base 10

The digits of base 10 and the numbers they spell.
-/

namespace Dialogue.Text.Decimal

/-- The value of a digit. -/
def value? (c : Char) : Option Nat :=
  if '0' ≤ c ∧ c ≤ '9' then some (c.toNat - 48) else none

/-- The number spelled by digits; what is no digit counts as zero. -/
def number (ds : List Char) : Nat :=
  ds.foldl (fun n d => n * 10 + (value? d).getD 0) 0

/-- The number spelled by characters, if they are digits and there are any. -/
def number? (cs : List Char) : Option Nat :=
  if !cs.isEmpty && cs.all fun c => (value? c).isSome then some (number cs) else none

end Dialogue.Text.Decimal
