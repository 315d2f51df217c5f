/-!
# Base 16

The digits of base 16 and the numbers they spell.
-/

namespace Dialogue.Text.Hex

/-- A digit in lower case. -/
def lower (n : Nat) : Char :=
  if n < 10 then Char.ofNat (48 + n) else Char.ofNat (87 + n)

/-- A digit in upper case. -/
def upper (n : Nat) : Char :=
  if n < 10 then Char.ofNat (48 + n) else Char.ofNat (55 + n)

/-- The value of a digit, in either case. -/
def value? (c : Char) : Option Nat :=
  if '0' ≤ c ∧ c ≤ '9' then some (c.toNat - 48)
  else if 'a' ≤ c ∧ c ≤ 'f' then some (c.toNat - 87)
  else if 'A' ≤ c ∧ c ≤ 'F' then some (c.toNat - 55)
  else none

/-- The number spelled by digits, after what is already read. -/
def number? (read : Nat) : List Char → Option Nat
  | [] => some read
  | c :: cs =>
    match value? c with
    | some d => number? (read * 16 + d) cs
    | none => none

end Dialogue.Text.Hex
