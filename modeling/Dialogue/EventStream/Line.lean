/-!
# Lines

Text cut into lines as it comes in, character by character. A line ends with a
line feed, a carriage return or both in that order. After a carriage return it is
not yet known which, so the line comes out with the character after it; an
unfinished line never comes out.
-/

namespace Dialogue.EventStream

/-- The line being read. -/
structure LineReader where
  /-- Its characters so far, the newest first. -/
  chars : List Char := []
  /-- Whether a carriage return ended it. -/
  ended : Bool := false
  deriving DecidableEq, Repr

namespace LineReader

/-- Take in a character; a line may come out. -/
def step (r : LineReader) (c : Char) : LineReader × Option (List Char) :=
  if r.ended then
    (if c = '\n' then {} else if c = '\r' then { ended := true } else { chars := [c] },
      some r.chars.reverse)
  else if c = '\n' then ({}, some r.chars.reverse)
  else if c = '\r' then ({ r with ended := true }, none)
  else ({ r with chars := c :: r.chars }, none)

end LineReader

end Dialogue.EventStream
