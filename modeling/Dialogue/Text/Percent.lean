import Dialogue.Text.Hex
import Dialogue.Text.Utf8

/-!
# Percent-encoding

How an identifier is put into a URL: letters, digits and `-`, `_`, `.`, `~`
stand for themselves, every other octet of its UTF-8 is written `%XX`. `decode?`
goes back to the octets; `decode` does so for any text.
-/

namespace Dialogue.Text.Percent

/-- The octets that stand for themselves. -/
def isUnreserved (b : UInt8) : Bool :=
  (0x30 ≤ b && b ≤ 0x39) || (0x41 ≤ b && b ≤ 0x5A) || (0x61 ≤ b && b ≤ 0x7A) ||
    b == 0x2D || b == 0x5F || b == 0x2E || b == 0x7E

/-- An octet written as `%XX`. -/
def escape (b : UInt8) : List Char :=
  ['%', Hex.upper (b.toNat / 16), Hex.upper (b.toNat % 16)]

/-- One octet, as itself or as `%XX`. -/
def encodeByte (b : UInt8) : List Char :=
  if isUnreserved b then [Char.ofNat b.toNat] else escape b

/-- A text, octet by octet. -/
def encode (s : String) : String :=
  String.ofList ((Utf8.encode s).flatMap encodeByte)

/-- The octets that an encoded text stands for. A `%` without two digits behind
    it stands for nothing. -/
def decode? : List Char → Option (List UInt8)
  | [] => some []
  | '%' :: h :: l :: rest => do
    let high ← Hex.value? h
    let low ← Hex.value? l
    let bytes ← decode? rest
    some (UInt8.ofNat (high * 16 + low) :: bytes)
  | c :: rest => do
    if c = '%' then none
    let bytes ← decode? rest
    some (String.utf8EncodeChar c ++ bytes)

/-- The octets that a text stands for, where a `%` without two digits behind it stands
    for itself. -/
def decode : List Char → List UInt8
  | [] => []
  | '%' :: h :: l :: rest =>
    match Hex.value? h, Hex.value? l with
    | some high, some low => UInt8.ofNat (high * 16 + low) :: decode rest
    | _, _ => String.utf8EncodeChar '%' ++ decode (h :: l :: rest)
  | c :: rest => String.utf8EncodeChar c ++ decode rest
termination_by cs => cs.length

end Dialogue.Text.Percent
