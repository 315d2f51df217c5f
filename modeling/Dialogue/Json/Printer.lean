import Dialogue.Json.Value
import Dialogue.Number.Shortest
import Dialogue.Text.Hex

/-!
# JSON written out

A value as one line of text without spaces. In a string the quote, the
backslash and the control characters are escaped, the latter with the short
forms where there are any; every other character stands for itself.
-/

namespace Dialogue.Json

/-- A character inside a string. -/
def escapeChar (c : Char) : List Char :=
  if c = '"' then ['\\', '"']
  else if c = '\\' then ['\\', '\\']
  else if c = '\x08' then ['\\', 'b']
  else if c = '\x0c' then ['\\', 'f']
  else if c = '\n' then ['\\', 'n']
  else if c = '\r' then ['\\', 'r']
  else if c = '\t' then ['\\', 't']
  else if c.toNat < 0x20 then
    ['\\', 'u', '0', '0', Text.Hex.lower (c.toNat / 16), Text.Hex.lower (c.toNat % 16)]
  else [c]

/-- A text between quotes. -/
def quoted (s : String) : List Char :=
  '"' :: (s.toList.flatMap escapeChar ++ ['"'])

/-- A number. -/
def Number.chars : Number → List Char
  | .int i => (toString i).toList
  | .float x => x.toText.toList

mutual

/-- The characters of a value. -/
def Value.chars : Value → List Char
  | .null => ['n', 'u', 'l', 'l']
  | .bool true => ['t', 'r', 'u', 'e']
  | .bool false => ['f', 'a', 'l', 's', 'e']
  | .number n => n.chars
  | .string s => quoted s
  | .array [] => ['[', ']']
  | .array (v :: vs) => '[' :: (v.chars ++ Value.itemChars vs)
  | .object [] => ['{', '}']
  | .object ((k, v) :: rest) =>
    '{' :: (quoted k ++ ':' :: (v.chars ++ Value.memberChars rest))

/-- The characters of the items after the first, to the end of the array. -/
def Value.itemChars : List Value → List Char
  | [] => [']']
  | v :: vs => ',' :: (v.chars ++ Value.itemChars vs)

/-- The characters of the members after the first, to the end of the object. -/
def Value.memberChars : List (String × Value) → List Char
  | [] => ['}']
  | (k, v) :: rest => ',' :: (quoted k ++ ':' :: (v.chars ++ Value.memberChars rest))

end

/-- A value as text. -/
def Value.render (v : Value) : String :=
  String.ofList v.chars

end Dialogue.Json
