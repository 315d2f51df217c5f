import Dialogue.Ids
import Dialogue.Text.Hex

/-!
# Identifiers that nobody else has

A supply of identifiers from a number that is drawn at random. Each is thirty-two
digits of base 16 in five groups; one digit tells that they are random, and of
another only the lower half is.
-/

namespace Dialogue.Ids

/-- The last digits of base 16 of a number, so many of them. -/
def lastDigits : Nat → Nat → List Char
  | 0, _ => []
  | k + 1, n => lastDigits k (n / 16) ++ [Text.Hex.lower (n % 16)]

/-- The identifier made of a number. -/
def random (n : Nat) : String :=
  "-".intercalate <| List.map String.ofList
    [lastDigits 8 (n >>> 90), lastDigits 4 (n >>> 74), '4' :: lastDigits 3 (n >>> 62),
      Text.Hex.lower (8 + (n >>> 60) % 4) :: lastDigits 3 (n >>> 48), lastDigits 12 n]

/-- The supply that starts from a number drawn at random. -/
def fromSeed (seed : Nat) : Ids :=
  ⟨fun n => random (seed + n), 0⟩

end Dialogue.Ids
