import Dialogue.Http.Head
import Dialogue.Text.Hex

/-!
# Bodies in chunks

A body may come in chunks, each with its size in a line before it. A chunk without
octets ends the body; lines like those of a head may follow, and then an empty line.
`Chunks.step` takes in one octet.
-/

namespace Dialogue.Http

/-- What the next octet of a body in chunks is. -/
inductive ChunkPlace where
  /-- The first digit of a size. -/
  | firstDigit
  /-- What follows the digits of a size. -/
  | size (read : Nat)
  /-- What follows a space behind a size. -/
  | gap (size : Nat)
  /-- A remark behind a size. -/
  | remark (size : Nat)
  /-- The end of the line with a size. -/
  | sizeEnd (size : Nat)
  /-- An octet of a chunk. -/
  | octet (left : Nat)
  /-- The two octets behind a chunk. -/
  | chunkReturn
  | chunkEnd
  /-- The beginning of a line behind the last chunk. -/
  | lineStart
  /-- The rest of such a line, and its end. -/
  | line
  | lineEnd
  /-- The end of the empty line. -/
  | lastEnd
  deriving DecidableEq, Repr

/-- How far a body in chunks has been read. -/
structure Chunks where
  place : ChunkPlace := .firstDigit
  /-- How long the remarks are. -/
  remarks : Nat := 0
  /-- What follows the last chunk, the newest octet first. -/
  trailer : List UInt8 := []
  /-- How many lines of it there are. -/
  trailers : Nat := 0
  deriving DecidableEq, Repr

namespace Chunks

/-- What comes of an octet. -/
inductive Outcome where
  /-- The body goes on. -/
  | more (c : Chunks)
  /-- The body goes on, and the octet is one of its own. -/
  | octet (c : Chunks)
  /-- The body is complete. -/
  | over
  /-- It is no such body. -/
  | broken
  deriving DecidableEq, Repr

/-- Remarks are shorter than this, and so is what follows the last chunk. -/
def textBound : Nat := 16384

/-- There are fewer lines than this behind the last chunk. -/
def trailerBound : Nat := 100

/-- Sizes are below this. -/
def sizeBound : Nat := 18446744073709551616

/-- Go on at a place. -/
def goTo (c : Chunks) (place : ChunkPlace) : Outcome :=
  .more { c with place }

/-- Go on after a digit of a size, given what is read before it. -/
def afterDigit (c : Chunks) (read : Nat) (b : UInt8) : Option Outcome :=
  (Text.Hex.value? (Char.ofNat b.toNat)).map fun d =>
    let size := read * 16 + d
    if size < sizeBound then c.goTo (.size size) else .broken

/-- Go on after an octet behind a size that is no digit. -/
def afterSize (c : Chunks) (size : Nat) (b : UInt8) : Outcome :=
  if b = 0x20 ∨ b = 0x09 then c.goTo (.gap size)
  else if b = 0x3B then c.goTo (.remark size)
  else if b = 0x0D then c.goTo (.sizeEnd size)
  else .broken

/-- Whether there is room for another octet behind the last chunk. -/
def hasRoom (c : Chunks) : Bool :=
  c.trailer.isEmpty || c.trailer.length + 1 < textBound

/-- Keep an octet behind the last chunk, and go on at a place. -/
def keep (c : Chunks) (b : UInt8) (place : ChunkPlace) : Outcome :=
  if c.hasRoom then .more { c with place, trailer := b :: c.trailer } else .broken

/-- Whether what follows the last chunk is headers, or nothing. -/
def isTrailer (c : Chunks) : Bool :=
  c.trailer.isEmpty ||
    (c.hasRoom && c.trailers < trailerBound &&
      (Header.ofLines? c.trailers (Header.lines c.trailer.reverse)).isSome)

/-- Take in an octet. -/
def step (c : Chunks) (b : UInt8) : Outcome :=
  match c.place with
  | .firstDigit => (c.afterDigit 0 b).getD .broken
  | .size read => (c.afterDigit read b).getD (c.afterSize read b)
  | .gap size => c.afterSize size b
  | .remark size =>
    if b = 0x0D then c.goTo (.sizeEnd size)
    else if b = 0x0A ∨ textBound ≤ c.remarks + 1 then .broken
    else .more { c with remarks := c.remarks + 1 }
  | .sizeEnd size =>
    if b ≠ 0x0A then .broken
    else if size = 0 then c.goTo .lineStart
    else c.goTo (.octet size)
  | .octet left => .octet { c with place := if left ≤ 1 then .chunkReturn else .octet (left - 1) }
  | .chunkReturn => if b = 0x0D then c.goTo .chunkEnd else .broken
  | .chunkEnd => if b = 0x0A then c.goTo .firstDigit else .broken
  | .lineStart =>
    if b ≠ 0x0D then c.keep b .line
    else if c.trailer.isEmpty then c.goTo .lastEnd
    else c.keep b .lastEnd
  | .line => c.keep b (if b = 0x0D then .lineEnd else .line)
  | .lineEnd =>
    if b = 0x0A ∧ c.trailers < trailerBound then
      { c with trailers := c.trailers + 1 }.keep b .lineStart
    else .broken
  | .lastEnd => if b = 0x0A && c.isTrailer then .over else .broken

end Chunks

end Dialogue.Http
