import Dialogue.EventStream.Line
import Dialogue.Text.Utf8

/-!
# Frames of an event stream

A frame is a block of lines `field: value` that an empty line ends. Its `data`
lines, joined by line feeds, are its data; its last `event` line names it, and
without one it is a `message`. A block without `data` is no frame. Lines that
start with a colon, and other fields, mean nothing.

`Reader` goes from octets to frames. The first line begins after a byte order
mark, if the text has one. The reader is a fold over octets, so it does not
matter how they were cut into pieces (`Reader.feed_append`).
-/

namespace Dialogue.EventStream

/-- A dispatched frame. -/
structure Frame where
  event : String
  data : String
  deriving DecidableEq, Repr

/-- The block being read. -/
structure Block where
  /-- The last name given. -/
  event : List Char := []
  /-- The data lines, the newest first. -/
  data : List (List Char) := []
  deriving DecidableEq, Repr

namespace Block

/-- A value without the one space that may stand in front. -/
def dropSpace : List Char → List Char
  | ' ' :: rest => rest
  | value => value

/-- The field and the value of a line. Without a colon all of it is the field. -/
def splitField (line : List Char) : List Char × List Char :=
  (line.takeWhile (· != ':'), dropSpace ((line.dropWhile (· != ':')).drop 1))

/-- The lines with a line feed between any two. -/
def joinLines : List (List Char) → List Char
  | [] => []
  | [line] => line
  | line :: rest => line ++ '\n' :: joinLines rest

/-- The frame of a block, if it has data. -/
def frame? (b : Block) : Option Frame :=
  if b.data.isEmpty then none
  else
    some {
      event := if b.event.isEmpty then "message" else String.ofList b.event
      data := String.ofList (joinLines b.data.reverse) }

/-- Take in a line; the empty line ends the block. -/
def step (b : Block) (line : List Char) : Block × Option Frame :=
  if line.isEmpty then ({}, b.frame?)
  else
    let (field, value) := splitField line
    if field = ['e', 'v', 'e', 'n', 't'] then ({ b with event := value }, none)
    else if field = ['d', 'a', 't', 'a'] then ({ b with data := value :: b.data }, none)
    else (b, none)

end Block

/-- The mark that may stand in front of a text and is no part of it. -/
def byteOrderMark : Char := '\uFEFF'

/-- What has been read but not yet dispatched. -/
structure Reader where
  decoder : Text.Utf8.Decoder := {}
  /-- Whether a character has come. -/
  begun : Bool := false
  line : LineReader := {}
  block : Block := {}
  deriving DecidableEq, Repr

namespace Reader

/-- Take in a character of a line, or of its end; a frame may come out. -/
def stepText (r : Reader) (c : Char) : Reader × Option Frame :=
  let (line, out) := r.line.step c
  match out with
  | none => ({ r with line }, none)
  | some text =>
    let (block, frame) := r.block.step text
    ({ r with line, block }, frame)

/-- Take in a character, unless it is a mark in front of all others; a frame may
    come out. -/
def stepChar (r : Reader) (c : Char) : Reader × Option Frame :=
  if !r.begun && c == byteOrderMark then ({ r with begun := true }, none)
  else stepText { r with begun := true } c

/-- Take in an octet; a frame may come out. -/
def step (r : Reader) (b : UInt8) : Reader × Option Frame :=
  let (decoder, c) := r.decoder.step b
  match c with
  | none => ({ r with decoder }, none)
  | some c => stepChar { r with decoder } c

/-- Take in octets; the frames come out in order. -/
def feed (r : Reader) : List UInt8 → Reader × List Frame
  | [] => (r, [])
  | b :: bs =>
    let (r₁, f) := r.step b
    let (r₂, fs) := r₁.feed bs
    (r₂, f.toList ++ fs)

/-- Feeding a piece and then another is feeding both at once. -/
theorem feed_append (r : Reader) (a b : List UInt8) :
    r.feed (a ++ b) =
      (((r.feed a).1.feed b).1, (r.feed a).2 ++ ((r.feed a).1.feed b).2) := by
  induction a generalizing r with
  | nil => simp [feed]
  | cons x a ih => simp [feed, ih]

end Reader

end Dialogue.EventStream
