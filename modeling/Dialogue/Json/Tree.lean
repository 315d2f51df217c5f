import Dialogue.Json.Literal
import Dialogue.Text.Decimal
import Dialogue.Text.Hex
import Dialogue.Text.Utf8

/-!
# JSON texts

A text is read into a `Tree` that keeps what a value loses: members in their
order, and keys that occur twice. Reading into a tree only checks that the text
is well formed. What is well formed but cannot be used becomes `unreadable`: a
string with half of a surrogate pair or with octets that are no text, a number
too large for the format, anything nested more than 127 levels deep. So a reader
that has no use for a member can skip it without looking inside.

* `Tree.parse?` reads a text, `Tree.parseSymbols?` octets that were split into
  characters before;
* `Tree.value?` takes a whole tree as a value, if it is readable throughout;
* `Value.toTree` goes back.
-/

namespace Dialogue.Json

/-- A JSON text in its parts. A key that is no text is `none`. -/
inductive Tree where
  | null
  | bool (b : Bool)
  | number (n : Number)
  | string (s : String)
  | array (items : List Tree)
  | object (members : List (Option String × Tree))
  | unreadable
  deriving Repr, Inhabited

/-- A character of a text, or `none` for octets that belong to no character. -/
abbrev Symbol := Option Char

namespace Tree

/-- How many levels of arrays and objects can be read. -/
def levelLimit : Nat := 127

/-! ## Equality -/

mutual

/-- Whether two trees are the same. -/
def same : Tree → Tree → Bool
  | .null, .null => true
  | .bool a, .bool b => a == b
  | .number a, .number b => a == b
  | .string a, .string b => a == b
  | .array as, .array bs => sameItems as bs
  | .object as, .object bs => sameMembers as bs
  | .unreadable, .unreadable => true
  | _, _ => false

/-- Whether two lists of trees are the same. -/
def sameItems : List Tree → List Tree → Bool
  | [], [] => true
  | a :: as, b :: bs => same a b && sameItems as bs
  | _, _ => false

/-- Whether two lists of members are the same. -/
def sameMembers : List (Option String × Tree) → List (Option String × Tree) → Bool
  | [], [] => true
  | (k, a) :: as, (l, b) :: bs => k == l && same a b && sameMembers as bs
  | _, _ => false

end

mutual

theorem same_iff : ∀ a b : Tree, same a b = true ↔ a = b
  | .null, b => by cases b <;> simp [same]
  | .bool _, b => by cases b <;> simp [same]
  | .number _, b => by cases b <;> simp [same]
  | .string _, b => by cases b <;> simp [same]
  | .array as, b => by cases b <;> simp [same, sameItems_iff as]
  | .object as, b => by cases b <;> simp [same, sameMembers_iff as]
  | .unreadable, b => by cases b <;> simp [same]

theorem sameItems_iff : ∀ as bs : List Tree, sameItems as bs = true ↔ as = bs
  | [], bs => by cases bs <;> simp [sameItems]
  | a :: as, bs => by cases bs <;> simp [sameItems, same_iff a, sameItems_iff as]

theorem sameMembers_iff : ∀ as bs : List (Option String × Tree),
    sameMembers as bs = true ↔ as = bs
  | [], bs => by cases bs <;> simp [sameMembers]
  | (k, a) :: as, bs => by
    cases bs <;> simp [sameMembers, same_iff a, sameMembers_iff as, Prod.ext_iff]

end

instance : DecidableEq Tree := fun a b => decidable_of_iff _ (same_iff a b)

/-! ## Spaces and digits -/

/-- Space, tab and the two line ends. -/
def isSpace (s : Symbol) : Bool :=
  s == some ' ' || s == some '\t' || s == some '\n' || s == some '\r'

/-- What follows the spaces in front. -/
def skipSpaces (input : List Symbol) : List Symbol :=
  input.dropWhile isSpace

/-- The value of a decimal digit. -/
def digit? : Symbol → Option Nat
  | some c => Text.Decimal.value? c
  | none => none

/-- The digits in front and what follows them. -/
def digits : List Symbol → List Nat × List Symbol
  | [] => ([], [])
  | s :: rest =>
    match digit? s with
    | none => ([], s :: rest)
    | some d => let (ds, rest) := digits rest; (d :: ds, rest)

/-- The number spelled by four digits of base 16. -/
def hex4? (a b c d : Symbol) : Option Nat := do
  let digits ← [a, b, c, d].mapM id
  Text.Hex.number? 0 digits

/-! ## Numbers -/

/-- A number literal without its sign, and what follows it. A leading zero
    stands alone, and a point or an exponent has digits. -/
def literal? (negative : Bool) (input : List Symbol) : Option (Literal × List Symbol) := do
  let (whole, rest) := digits input
  if whole.isEmpty || (whole.head? == some 0 && whole.length != 1) then none
  let (fraction, rest) ← match rest with
    | some '.' :: rest =>
      let (ds, rest) := digits rest
      if ds.isEmpty then none else some (some ds, rest)
    | _ => some (none, rest)
  let (exponent, rest) ← match rest with
    | some c :: rest' =>
      if c = 'e' ∨ c = 'E' then
        let (plus, rest') := match rest' with
          | some '+' :: r => (true, r)
          | some '-' :: r => (false, r)
          | r => (true, r)
        let (ds, rest') := digits rest'
        if ds.isEmpty then none else some (some (plus, ds), rest')
      else some (none, rest)
    | _ => some (none, rest)
  some (⟨negative, whole, fraction, exponent⟩, rest)

/-- The number a literal denotes, as a tree. -/
def ofLiteral (l : Literal) : Tree :=
  match l.number? with
  | some n => .number n
  | none => .unreadable

/-! ## Strings -/

/-- A piece of a string: a character, half of a surrogate pair, or octets that
    are no text. -/
inductive Piece where
  | char (c : Char)
  | surrogate (unit : Nat)
  | broken
  deriving DecidableEq, Repr

/-- Whether a unit is half of a surrogate pair. -/
def isSurrogate (unit : Nat) : Bool :=
  0xD800 ≤ unit && unit ≤ 0xDFFF

/-- The character spelled by two halves, the first high and the second low. -/
def joinSurrogates? (high low : Nat) : Option Char :=
  if 0xD800 ≤ high ∧ high ≤ 0xDBFF ∧ 0xDC00 ≤ low ∧ low ≤ 0xDFFF then
    some (Char.ofNat (0x10000 + (high - 0xD800) * 0x400 + (low - 0xDC00)))
  else none

/-- The text of pieces: each high half is followed by a low one, and nothing is
    broken. -/
def assemble? : List Piece → Option (List Char)
  | [] => some []
  | .char c :: rest => (assemble? rest).map (c :: ·)
  | .surrogate high :: .surrogate low :: rest => do
    let c ← joinSurrogates? high low
    let cs ← assemble? rest
    some (c :: cs)
  | .surrogate _ :: _ => none
  | .broken :: _ => none

/-- The character that a short escape stands for. -/
def escaped? (c : Char) : Option Char :=
  if c = '"' ∨ c = '\\' ∨ c = '/' then some c
  else if c = 'b' then some '\x08'
  else if c = 'f' then some '\x0c'
  else if c = 'n' then some '\n'
  else if c = 'r' then some '\r'
  else if c = 't' then some '\t'
  else none

/-- The pieces of a string after its opening quote, the newest first, and what
    follows the closing quote. No control character stands in a string. -/
def pieces? (acc : List Piece) : List Symbol → Option (List Piece × List Symbol)
  | [] => none
  | some '"' :: rest => some (acc, rest)
  | some '\\' :: some 'u' :: a :: b :: c :: d :: rest =>
    match hex4? a b c d with
    | none => none
    | some unit =>
      pieces? ((if isSurrogate unit then .surrogate unit else .char (Char.ofNat unit)) :: acc)
        rest
  | some '\\' :: some c :: rest =>
    match escaped? c with
    | none => none
    | some c => pieces? (.char c :: acc) rest
  | some '\\' :: _ => none
  | some c :: rest => if c.toNat < 0x20 then none else pieces? (.char c :: acc) rest
  | none :: rest => pieces? (.broken :: acc) rest

/-- The text of a string after its opening quote, `none` if it is no text, and
    what follows the closing quote. -/
def text? (input : List Symbol) : Option (Option String × List Symbol) :=
  (pieces? [] input).map fun (pieces, rest) =>
    ((assemble? pieces.reverse).map String.ofList, rest)

/-- What follows a word, if the input starts with it. -/
def word? : List Char → List Symbol → Option (List Symbol)
  | [], rest => some rest
  | c :: cs, s :: rest => if s = some c then word? cs rest else none
  | _ :: _, [] => none

/-! ## Values -/

/-- What is nested too deep cannot be read. -/
def atLevel (level : Nat) (t : Tree) : Tree :=
  if level ≤ levelLimit then t else .unreadable

mutual

/-- A value at the start of the input, inside `level` arrays and objects, and
    what follows it. The fuel bounds the number of steps. -/
def value (fuel level : Nat) (input : List Symbol) : Option (Tree × List Symbol) :=
  match fuel with
  | 0 => none
  | fuel + 1 =>
    match input with
    | some '[' :: rest =>
      match skipSpaces rest with
      | some ']' :: rest => some (atLevel (level + 1) (.array []), rest)
      | rest => items fuel (level + 1) [] rest
    | some '{' :: rest =>
      match skipSpaces rest with
      | some '}' :: rest => some (atLevel (level + 1) (.object []), rest)
      | rest => members fuel (level + 1) [] rest
    | some '"' :: rest =>
      (text? rest).map fun (s, rest) =>
        ((match s with | some s => .string s | none => .unreadable), rest)
    | some '-' :: rest => (literal? true rest).map fun (l, rest) => (ofLiteral l, rest)
    | some 't' :: rest => (word? ['r', 'u', 'e'] rest).map (.bool true, ·)
    | some 'f' :: rest => (word? ['a', 'l', 's', 'e'] rest).map (.bool false, ·)
    | some 'n' :: rest => (word? ['u', 'l', 'l'] rest).map (.null, ·)
    | input => (literal? false input).map fun (l, rest) => (ofLiteral l, rest)

/-- The rest of an array from an item on, with the items before it, the newest
    first. -/
def items (fuel level : Nat) (acc : List Tree) (input : List Symbol) :
    Option (Tree × List Symbol) :=
  match fuel with
  | 0 => none
  | fuel + 1 =>
    match value fuel level input with
    | none => none
    | some (t, rest) =>
      match skipSpaces rest with
      | some ']' :: rest => some (atLevel level (.array (t :: acc).reverse), rest)
      | some ',' :: rest => items fuel level (t :: acc) (skipSpaces rest)
      | _ => none

/-- The rest of an object from a key on, with the members before it, the newest
    first. -/
def members (fuel level : Nat) (acc : List (Option String × Tree)) (input : List Symbol) :
    Option (Tree × List Symbol) :=
  match fuel with
  | 0 => none
  | fuel + 1 =>
    match input with
    | some '"' :: rest =>
      match text? rest with
      | none => none
      | some (key, rest) =>
        match skipSpaces rest with
        | some ':' :: rest =>
          match value fuel level (skipSpaces rest) with
          | none => none
          | some (t, rest) =>
            match skipSpaces rest with
            | some '}' :: rest =>
              some (atLevel level (.object ((key, t) :: acc).reverse), rest)
            | some ',' :: rest => members fuel level ((key, t) :: acc) (skipSpaces rest)
            | _ => none
        | _ => none
    | _ => none

end

/-- A text of symbols that is one value with only spaces around it. -/
def parseSymbols? (input : List Symbol) : Option Tree := do
  let (t, rest) ← value (2 * input.length + 1) 0 (skipSpaces input)
  if (skipSpaces rest).isEmpty then some t else none

/-- A text that is one value with only spaces around it. -/
def parse? (s : String) : Option Tree :=
  parseSymbols? (s.toList.map some)

/-- Octets that are one value with only spaces around it. -/
def parseBytes? (bs : List UInt8) : Option Tree :=
  parseSymbols? (Text.Utf8.symbols bs)

/-! ## Trees as values -/

mutual

/-- The value of a tree; of two members with one key the later counts. -/
def value? : Tree → Option Value
  | .null => some .null
  | .bool b => some (.bool b)
  | .number n => some (.number n)
  | .string s => some (.string s)
  | .array items => (values? items).map .array
  | .object members => (memberValues? [] members).map .object
  | .unreadable => none

/-- The values of trees. -/
def values? : List Tree → Option (List Value)
  | [] => some []
  | t :: ts =>
    match value? t with
    | none => none
    | some v => (values? ts).map (v :: ·)

/-- The members of an object, put in their places one after the other. -/
def memberValues? (acc : List (String × Value)) :
    List (Option String × Tree) → Option (List (String × Value))
  | [] => some acc
  | (none, _) :: _ => none
  | (some key, t) :: rest =>
    match value? t with
    | none => none
    | some v => memberValues? (Members.insert key v acc) rest

end

end Tree

mutual

/-- A value as a tree. -/
def Value.toTree : Value → Tree
  | .null => .null
  | .bool b => .bool b
  | .number n => .number n
  | .string s => .string s
  | .array items => .array (Value.toTrees items)
  | .object members => .object (Value.toMembers members)

/-- Values as trees. -/
def Value.toTrees : List Value → List Tree
  | [] => []
  | v :: vs => v.toTree :: Value.toTrees vs

/-- Members as members of a tree. -/
def Value.toMembers : List (String × Value) → List (Option String × Tree)
  | [] => []
  | (k, v) :: rest => (some k, v.toTree) :: Value.toMembers rest

end

/-- A text read as a value. -/
def Value.parse? (s : String) : Option Value :=
  (Tree.parse? s).bind Tree.value?

end Dialogue.Json
