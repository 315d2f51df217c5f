import Dialogue.Http.Host.Folding
import Dialogue.Http.Host.Letter
import Dialogue.Http.Host.Numeric
import Dialogue.Text.Canonical
import Dialogue.Text.Punycode

/-!
# Names of hosts

A name is brought into plain small letters before it is looked up (`plainName?`): what
stands for other letters is replaced, accents get their one spelling, and a label with
letters beyond the first 128 is written as `xn--` and its Punycode. A label that comes
in this form must be what its letters are written as. Names in which the direction of
writing changes must do so in an orderly way.
-/

namespace Dialogue.Http.Host

open Text

/-! ## Letters -/

/-- What a character of a name is replaced by, unless it is refused. -/
def plainLetters? (c : Char) : Option (List Char) :=
  match fold? c with
  | some cs => some cs
  | none => if isIgnored c then some [] else if isRefused c then none else some [c]

/-- A name with small letters and accents in their one spelling. -/
def folded? (cs : List Char) : Option (List Char) :=
  (cs.mapM plainLetters?).map fun parts => Canonical.compose parts.flatten

/-- Whether a plain character has a meaning in an address, so that no name has it. -/
def isReserved (c : Char) : Bool :=
  c.toNat ≤ 0x20 || c.toNat == 0x7F ||
    ['%', '#', '/', ':', '<', '>', '?', '@', '[', '\\', ']', '^', '|'].contains c

/-! ## Joiners -/

/-- The rank of a mark that takes the vowel from a letter. -/
def vowelKiller : Nat := 9

/-- Whether letters join across a place, given those before it, the nearest first, and
    those behind it. -/
def joinsAcross (before behind : List Char) : Bool :=
  (before.dropWhile isTransparent).head?.any joinsNext &&
    (behind.dropWhile isTransparent).head?.any joinsPrevious

/-- Whether the joiners in a label, after what is already gone through, the nearest
    first, have an effect. -/
def joinersMatter (before : List Char) : List Char → Bool
  | [] => true
  | c :: rest =>
    let isKilled := before.head?.any fun d => Canonical.rank d == vowelKiller
    let matters :=
      if c = '\u200D' then isKilled
      else if c = '\u200C' then isKilled || joinsAcross before rest
      else true
    matters && joinersMatter (c :: before) rest

/-! ## Labels -/

/-- A label of a name. -/
structure Label where
  /-- Its letters. -/
  letters : List Char
  /-- The plain characters it is written with. -/
  plain : List Char
  deriving DecidableEq, Repr

/-- Whether letters that are not all plain can be a label: no mark comes first, and
    joiners have an effect. -/
def isLabel (cs : List Char) : Bool :=
  !cs.head?.any isMark && joinersMatter [] cs

/-- The longest label that is written in Punycode, and the longest text that is read. -/
def longestWritten : Nat := 1000
def longestRead : Nat := 2000

/-- The label that plain characters after `xn--` are written for. -/
def encodedLabel? (cs : List Char) : Option Label :=
  if longestRead < cs.length then none
  else
    match Punycode.decode? cs with
    | none => none
    | some letters =>
      if letters.all Punycode.isPlain || folded? letters ≠ some letters || !isLabel letters then
        none
      else some ⟨letters, ['x', 'n', '-', '-'] ++ cs⟩

/-- The label that folded characters are. -/
def label? : List Char → Option Label
  | 'x' :: 'n' :: '-' :: '-' :: cs => encodedLabel? cs
  | cs =>
    if cs.all Punycode.isPlain then some ⟨cs, cs⟩
    else if isLabel cs && cs.length ≤ longestWritten then
      some ⟨cs, ['x', 'n', '-', '-'] ++ Punycode.encode cs⟩
    else none

/-! ## Directions -/

/-- Whether a name with such a character has to be orderly. -/
def Direction.isRightward : Direction → Bool
  | .right | .arabicNumber => true
  | _ => false

/-- Whether a label that is written from the right is orderly. -/
def isOrderlyFromRight (ds : List Direction) : Bool :=
  ds.all (· != .left) && !(ds.contains .number && ds.contains .arabicNumber) &&
    (ds.reverse.dropWhile (· == .mark)).head?.any fun d =>
      d == .right || d == .number || d == .arabicNumber

/-- Whether a label that is written from the left is orderly. -/
def isOrderlyFromLeft (ds : List Direction) : Bool :=
  ds.all (fun d => !d.isRightward) &&
    (ds.reverse.dropWhile (· == .mark)).head?.any fun d => d == .left || d == .number

/-- Whether the direction of writing is clear from the first letter, and kept. -/
def isOrderly (letters : List Char) : Bool :=
  let ds := letters.map direction
  match ds with
  | [] => true
  | .right :: _ => isOrderlyFromRight ds
  | .left :: _ => isOrderlyFromLeft ds
  | _ => false

/-! ## Names -/

/-- Labels with points between them. -/
def joinLabels : List (List Char) → List Char
  | [] => []
  | [l] => l
  | l :: ls => l ++ '.' :: joinLabels ls

/-- A name in plain small letters, if it can be one. -/
def plainName? (cs : List Char) : Option (List Char) := do
  let cs ← folded? cs
  if cs.any isReserved then none
  let labels ← (partsAt '.' cs).mapM label?
  let letters := labels.map (·.letters)
  if letters.any (·.any fun c => (direction c).isRightward) && !letters.all isOrderly then none
  some (joinLabels (labels.map (·.plain)))

end Dialogue.Http.Host
