/-!
# Text from octets

The first octets of a list either spell a character, or cannot begin one, or
stop short of one: `head` tells which, by the well-formed octet sequences of
UTF-8 (no overlong form, no surrogate, nothing above `U+10FFFF`).

Three readers rest on it:

* `Decoder`, an octet-at-a-time machine for text that arrives in pieces. It
  gives out each character with the last of its octets. The first octet that
  fits nowhere is held back with everything after it, and what is still held
  at the end is a `Fault`. Being a fold over the octets, it cannot see how they
  were cut into pieces (`Decoder.feed_append`);
* `decode?`, for octets that must all be text;
* `decodeLossy`, which puts `U+FFFD` for every maximal piece that is no text.
-/

namespace Dialogue.Text.Utf8

/-- What the first octets of a list are. -/
inductive Head where
  /-- There are no octets. -/
  | empty
  /-- The character spelled by the first `length` octets. -/
  | char (c : Char) (length : Nat)
  /-- The first `length` octets begin no character. -/
  | invalid (length : Nat)
  /-- All octets together begin a character, and more are needed. -/
  | incomplete
  deriving DecidableEq, Repr

/-- Octets after the first lie in `80..BF`. -/
def isContinuation (b : UInt8) : Bool :=
  0x80 ≤ b && b ≤ 0xBF

/-- The second octets allowed after a given first one, of three or four in
    all. The narrower ranges rule out overlong forms, surrogates and what lies
    above `U+10FFFF`. -/
def allowsSecond (first second : UInt8) : Bool :=
  if first == 0xE0 then 0xA0 ≤ second && second ≤ 0xBF
  else if first == 0xED then 0x80 ≤ second && second ≤ 0x9F
  else if first == 0xF0 then 0x90 ≤ second && second ≤ 0xBF
  else if first == 0xF4 then 0x80 ≤ second && second ≤ 0x8F
  else isContinuation second

/-- The low six bits of a continuation octet. -/
def payload (b : UInt8) : Nat :=
  b.toNat % 64

/-- What the first octets are. -/
def head : List UInt8 → Head
  | [] => .empty
  | b₀ :: rest =>
    if b₀ < 0x80 then .char (Char.ofNat b₀.toNat) 1
    else if 0xC2 ≤ b₀ && b₀ ≤ 0xDF then
      match rest with
      | [] => .incomplete
      | b₁ :: _ =>
        if isContinuation b₁ then
          .char (Char.ofNat (b₀.toNat % 32 * 64 + payload b₁)) 2
        else .invalid 1
    else if 0xE0 ≤ b₀ && b₀ ≤ 0xEF then
      match rest with
      | [] => .incomplete
      | b₁ :: rest =>
        if allowsSecond b₀ b₁ then
          match rest with
          | [] => .incomplete
          | b₂ :: _ =>
            if isContinuation b₂ then
              .char (Char.ofNat ((b₀.toNat % 16 * 64 + payload b₁) * 64 + payload b₂)) 3
            else .invalid 2
        else .invalid 1
    else if 0xF0 ≤ b₀ && b₀ ≤ 0xF4 then
      match rest with
      | [] => .incomplete
      | b₁ :: rest =>
        if allowsSecond b₀ b₁ then
          match rest with
          | [] => .incomplete
          | b₂ :: rest =>
            if isContinuation b₂ then
              match rest with
              | [] => .incomplete
              | b₃ :: _ =>
                if isContinuation b₃ then
                  .char (Char.ofNat
                    (((b₀.toNat % 8 * 64 + payload b₁) * 64 + payload b₂) * 64 + payload b₃)) 4
                else .invalid 3
            else .invalid 2
        else .invalid 1
    else .invalid 1

/-- Why held octets are no text. -/
inductive Fault where
  /-- The first `length` octets begin no character. -/
  | invalid (length : Nat)
  /-- The octets stop inside a character. -/
  | incomplete
  deriving DecidableEq, Repr

/-- The wording of a fault. Octets are held from the fault on, so its index
    among them is 0. -/
def Fault.message : Fault → String
  | .invalid length => s!"invalid utf-8 sequence of {length} bytes from index 0"
  | .incomplete => "incomplete utf-8 byte sequence from index 0"

/-- The octets that are not yet text, the newest first. -/
structure Decoder where
  /-- The octets held back, the newest first. -/
  held : List UInt8 := []
  /-- Whether they begin no character, so that nothing comes out any more. -/
  stuck : Bool := false
  deriving DecidableEq, Repr

namespace Decoder

/-- Take in one octet; a character comes out with its last octet. -/
def step (d : Decoder) (b : UInt8) : Decoder × Option Char :=
  if d.stuck then ({ d with held := b :: d.held }, none)
  else
    match head (b :: d.held).reverse with
    | .char c _ => ({}, some c)
    | .invalid _ => ({ held := b :: d.held, stuck := true }, none)
    | _ => ({ held := b :: d.held }, none)

/-- Take in octets; the characters come out in order. -/
def feed (d : Decoder) : List UInt8 → Decoder × List Char
  | [] => (d, [])
  | b :: bs =>
    let (d₁, c) := d.step b
    let (d₂, cs) := d₁.feed bs
    (d₂, c.toList ++ cs)

/-- Feeding a piece and then another is feeding both at once. -/
theorem feed_append (d : Decoder) (a b : List UInt8) :
    d.feed (a ++ b) =
      (((d.feed a).1.feed b).1, (d.feed a).2 ++ ((d.feed a).1.feed b).2) := by
  induction a generalizing d with
  | nil => simp [feed]
  | cons x a ih => simp [feed, ih]

/-- What is wrong with the octets still held, if there are any. -/
def fault? (d : Decoder) : Option Fault :=
  match head d.held.reverse with
  | .empty => none
  | .invalid length => some (.invalid length)
  | _ => some .incomplete

end Decoder

/-- The text spelled by octets, if they are text to the end. -/
def decode? (bs : List UInt8) : Option String :=
  let (d, cs) := ({} : Decoder).feed bs
  if d.held.isEmpty then some (String.ofList cs) else none

/-- The characters of octets, where an octet that belongs to no character is
    `none`. The fuel bounds the number of pieces. -/
def symbolsFrom : Nat → List UInt8 → List (Option Char)
  | 0, _ => []
  | fuel + 1, bs =>
    match head bs with
    | .empty => []
    | .char c length => some c :: symbolsFrom fuel (bs.drop length)
    | .invalid length => none :: symbolsFrom fuel (bs.drop length)
    | .incomplete => [none]

/-- The characters of octets, with `none` for each maximal piece that is no
    text. -/
def symbols (bs : List UInt8) : List (Option Char) :=
  symbolsFrom bs.length bs

/-- The text of octets, with `U+FFFD` for each maximal piece that is no
    text. -/
def decodeLossy (bs : List UInt8) : String :=
  String.ofList ((symbols bs).map fun s => s.getD '\uFFFD')

/-- The octets that spell a text. -/
def encode (s : String) : List UInt8 :=
  s.toList.flatMap String.utf8EncodeChar

end Dialogue.Text.Utf8
