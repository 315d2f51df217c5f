import Dialogue.Text.Decimal
import Dialogue.Text.Hex
import Dialogue.Text.Parts

/-!
# Addresses in numbers

An address of four octets may be written in several ways: in one to four parts, of
which the last takes up what the others leave, each in base 8, 10 or 16. One of eight
pieces of two octets is written in base 16; one run of pieces that are zero may be
left out, and the last two may be written as four octets.
-/

namespace Dialogue.Http.Host

open Text

/-! ## Four octets -/

/-- The number spelled by digits of a base up to 10, after what is already read. -/
def numberIn? (base read : Nat) : List Char → Option Nat
  | [] => some read
  | c :: cs =>
    match Decimal.value? c with
    | some d => if d < base then numberIn? base (read * base + d) cs else none
    | none => none

/-- The number that a part is: in base 16 after `0x`, in base 8 after `0`, else in base
    10. -/
def partNumber? : List Char → Option Nat
  | [] => none
  | ['0'] => some 0
  | '0' :: 'x' :: ds => Hex.number? 0 ds
  | '0' :: 'X' :: ds => Hex.number? 0 ds
  | '0' :: ds => numberIn? 8 0 ds
  | ds => numberIn? 10 0 ds

/-- The parts of a name, without an empty one at the end. -/
def nameParts (cs : List Char) : List (List Char) :=
  let parts := partsAt '.' cs
  if 1 < parts.length ∧ parts.getLast? = some [] then parts.dropLast else parts

/-- Whether the last part of a name is a number, so that the name is an address. -/
def endsInNumber (cs : List Char) : Bool :=
  match (nameParts cs).getLast? with
  | some part => (!part.isEmpty && part.all Char.isDigit) || (partNumber? part).isSome
  | none => false

/-- How many addresses there are if so many parts are given. -/
def roomAfter : Nat → Nat
  | 0 => 0x100000000
  | 1 => 0x1000000
  | 2 => 0x10000
  | 3 => 0x100
  | _ => 0

/-- The address that numbers give: an octet each, and the last one the rest. -/
def joinOctets? (high given : Nat) : List Nat → Option Nat
  | [] => none
  | [n] => if n < roomAfter given then some (high + n) else none
  | n :: rest =>
    if n < 0x100 then joinOctets? (high + n * roomAfter (given + 1)) (given + 1) rest else none

/-- The address of four octets that a name is. -/
def octets? (cs : List Char) : Option Nat :=
  ((nameParts cs).mapM partNumber?).bind (joinOctets? 0 0)

/-- Four octets as text. -/
def octetsText (n : Nat) : String :=
  ".".intercalate
    [toString (n / 0x1000000 % 0x100), toString (n / 0x10000 % 0x100),
      toString (n / 0x100 % 0x100), toString (n % 0x100)]

/-! ## Eight pieces -/

/-- The octet that a part is, in base 10 without zeros before it. -/
def octet? (ds : List Char) : Option Nat :=
  match Decimal.number? ds with
  | some n => if n < 0x100 ∧ (ds.length = 1 ∨ ds.head? ≠ some '0') then some n else none
  | none => none

/-- The two pieces that four octets are. -/
def piecesOfOctets? (cs : List Char) : Option (List Nat) :=
  match (partsAt '.' cs).mapM octet? with
  | some [a, b, c, d] => some [a * 0x100 + b, c * 0x100 + d]
  | _ => none

/-- The piece that a part is. -/
def piece? (ds : List Char) : Option Nat :=
  if ds.isEmpty || 4 < ds.length then none else Hex.number? 0 ds

/-- The pieces that parts are; the last part may be four octets. -/
def pieces? : List (List Char) → Option (List Nat)
  | [] => some []
  | [part] => if part.contains '.' then piecesOfOctets? part else (piece? part).map ([·])
  | part :: rest => do
    let n ← piece? part
    let ns ← pieces? rest
    some (n :: ns)

/-- The text before two colons and the text behind them. -/
def splitGap? : List Char → Option (List Char × List Char)
  | [] => none
  | ':' :: ':' :: rest => some ([], rest)
  | c :: rest => (splitGap? rest).map fun (before, behind) => (c :: before, behind)

/-- The parts between colons; an empty text has none. -/
def colonParts (cs : List Char) : List (List Char) :=
  if cs.isEmpty then [] else partsAt ':' cs

/-- The address of eight pieces that a text is. Two colons stand for one piece or more
    that are zero. -/
def pieceAddress? (cs : List Char) : Option (List Nat) :=
  match splitGap? cs with
  | none => do
    let pieces ← pieces? (colonParts cs)
    if pieces.length = 8 then some pieces else none
  | some (before, behind) => do
    let high ← (colonParts before).mapM piece?
    let low ← pieces? (colonParts behind)
    if high.length + low.length < 8 then
      some (high ++ List.replicate (8 - high.length - low.length) 0 ++ low)
    else none

/-- How many pieces at the beginning are zero. -/
def zeros (pieces : List Nat) : Nat :=
  (pieces.takeWhile (· == 0)).length

/-- The longest run of zeros from an index on: where it begins, and its length. -/
def longestRun (index : Nat) : List Nat → Nat × Nat
  | [] => (index, 0)
  | n :: rest =>
    let here := zeros (n :: rest)
    let later := longestRun (index + 1) rest
    if later.2 ≤ here then (index, here) else later

/-- Pieces with colons between them. -/
def colonText (pieces : List Nat) : String :=
  ":".intercalate (pieces.map fun n => String.ofList (Nat.toDigits 16 n))

/-- Eight pieces as text, with the first of the longest runs of zeros left out if it is
    longer than one. -/
def piecesText (pieces : List Nat) : String :=
  let (start, length) := longestRun 0 pieces
  if 1 < length then
    colonText (pieces.take start) ++ "::" ++ colonText (pieces.drop (start + length))
  else colonText pieces

end Dialogue.Http.Host
