/-!
# Blank characters and trimming

What counts as blank in user input, settings and payloads: the characters with
the Unicode property `White_Space`. On it rest

* `isBlank`, a text of blanks only;
* `trim`, a text without the blanks around it;
* `cutAtBlank?`, a text cut in two at its first blank.

The work is done on lists of characters; the functions on `String` only
convert.
-/

namespace Dialogue.Text

/-- The characters with the property `White_Space`. -/
def isBlankChar (c : Char) : Bool :=
  let n := c.toNat
  (9 ≤ n && n ≤ 13) || n == 0x20 || n == 0x85 || n == 0xA0 || n == 0x1680 ||
    (0x2000 ≤ n && n ≤ 0x200A) || n == 0x2028 || n == 0x2029 || n == 0x202F ||
    n == 0x205F || n == 0x3000

/-- The characters without the blanks in front. -/
def dropBlanks (cs : List Char) : List Char :=
  cs.dropWhile isBlankChar

/-- The characters without the blanks at both ends. -/
def trimChars (cs : List Char) : List Char :=
  (dropBlanks (dropBlanks cs).reverse).reverse

/-- The text without the blanks at both ends. -/
def trim (s : String) : String :=
  String.ofList (trimChars s.toList)

/-- Whether there is nothing but blanks. -/
def isBlank (s : String) : Bool :=
  s.toList.all isBlankChar

/-- What stands before and after the first blank, if there is one. -/
def cutAtBlank? (cs : List Char) : Option (List Char × List Char) :=
  match cs.dropWhile (fun c => !isBlankChar c) with
  | [] => none
  | _ :: rest => some (cs.takeWhile (fun c => !isBlankChar c), rest)

/-- The first run of characters without a blank, if there is one. -/
def firstWord? (cs : List Char) : Option (List Char) :=
  match (dropBlanks cs).takeWhile (fun c => !isBlankChar c) with
  | [] => none
  | word => some word

end Dialogue.Text
