import Dialogue.Text.Shapeless

/-!
# Quoted text

A text between quotes for the eyes of a developer: the quote, the backslash and the
usual controls have short escapes, other characters without a shape are written by
number.
-/

namespace Dialogue.Text.Quoted

/-- A character by number. -/
def byNumber (c : Char) : List Char :=
  ['\\', 'u', '\x7b'] ++ (Nat.toDigits 16 c.toNat) ++ ['\x7d']

/-- A character between quotes. -/
def encodeChar (c : Char) : List Char :=
  if c = '\x00' then ['\\', '0']
  else if c = '\t' then ['\\', 't']
  else if c = '\r' then ['\\', 'r']
  else if c = '\n' then ['\\', 'n']
  else if c = '"' then ['\\', '"']
  else if c = '\\' then ['\\', '\\']
  else if isShapeless c then byNumber c
  else [c]

/-- A text between quotes. -/
def encode (s : String) : String :=
  String.ofList ('"' :: (s.toList.flatMap encodeChar ++ ['"']))

end Dialogue.Text.Quoted
