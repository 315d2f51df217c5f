import Dialogue.Json.Tree

/-!
# The grammar of JSON

Which texts are JSON and what they say, apart from how they are read. A text spells a
tree if it is one value with only spaces around it (`IsText`); the levels count how deep
arrays and objects may stand in one another.

Only trees that can be used are spelled: no string has half of a surrogate pair, and no
number is too large for the format.
-/

namespace Dialogue.Json

open Dialogue.Json.Tree

/-! ## Spaces and lists -/

/-- Nothing but spaces. -/
def Spaces (text : List Symbol) : Prop :=
  ∀ s ∈ text, isSpace s = true

/-- Something with spaces around it. -/
inductive Spaced (P : List Symbol → Prop) : List Symbol → Prop
  | intro {before inner after : List Symbol} : Spaces before → P inner → Spaces after →
      Spaced P (before ++ (inner ++ after))

/-- Things with spaces around each and a comma between any two. -/
inductive Listing {α : Type} (P : α → List Symbol → Prop) : List α → List Symbol → Prop
  | last {a : α} {text : List Symbol} : Spaced (P a) text → Listing P [a] text
  | cons {a : α} {as : List α} {text more : List Symbol} : Spaced (P a) text → Listing P as more →
      Listing P (a :: as) (text ++ some ',' :: more)

/-! ## Numbers -/

/-- Digits, at least one. -/
structure SpellsDigits (ds : List Nat) (text : List Symbol) : Prop where
  values : text.map digit? = ds.map some
  ne_nil : ds ≠ []

/-- A point with digits, or nothing. -/
inductive SpellsFraction : Option (List Nat) → List Symbol → Prop
  | none : SpellsFraction none []
  | some {ds : List Nat} {text : List Symbol} : SpellsDigits ds text →
      SpellsFraction (some ds) (some '.' :: text)

/-- The sign of an exponent, which may be left out for plus. -/
inductive SpellsSign : Bool → List Symbol → Prop
  | unsigned : SpellsSign true []
  | plus : SpellsSign true [some '+']
  | minus : SpellsSign false [some '-']

/-- An exponent with a sign and digits, or nothing. -/
inductive SpellsExponent : Option (Bool × List Nat) → List Symbol → Prop
  | none : SpellsExponent none []
  | some {e : Char} {plus : Bool} {ds : List Nat} {sign text : List Symbol} :
      e = 'e' ∨ e = 'E' → SpellsSign plus sign → SpellsDigits ds text →
      SpellsExponent (some (plus, ds)) (some e :: (sign ++ text))

/-- A number literal after its sign. A leading zero stands alone. -/
inductive SpellsUnsigned : Literal → List Symbol → Prop
  | intro {negative : Bool} {whole : List Nat} {fraction : Option (List Nat)}
      {exponent : Option (Bool × List Nat)} {a b c : List Symbol} :
      SpellsDigits whole a → (whole.head? = some 0 → whole.length = 1) →
      SpellsFraction fraction b → SpellsExponent exponent c →
      SpellsUnsigned ⟨negative, whole, fraction, exponent⟩ (a ++ (b ++ c))

/-- A number literal. -/
inductive SpellsLiteral (l : Literal) : List Symbol → Prop
  | positive {text : List Symbol} : l.negative = false → SpellsUnsigned l text →
      SpellsLiteral l text
  | negative {text : List Symbol} : l.negative = true → SpellsUnsigned l text →
      SpellsLiteral l (some '-' :: text)

/-! ## Strings -/

/-- What may stand after a backslash, and the character that it means. -/
def shortEscapes : List (Char × Char) :=
  [('"', '"'), ('\\', '\\'), ('/', '/'), ('b', '\x08'), ('f', '\x0c'), ('n', '\n'), ('r', '\r'),
    ('t', '\t')]

/-- The characters between the quotes of a string: each stands for itself, or is escaped,
    by the number of its only unit or those of its surrogate pair. -/
inductive SpellsChars : List Char → List Symbol → Prop
  | nil : SpellsChars [] []
  | plain {c : Char} {cs : List Char} {text : List Symbol} :
      c ≠ '"' → c ≠ '\\' → 0x20 ≤ c.toNat → SpellsChars cs text →
      SpellsChars (c :: cs) (some c :: text)
  | short {e c : Char} {cs : List Char} {text : List Symbol} :
      (e, c) ∈ shortEscapes → SpellsChars cs text →
      SpellsChars (c :: cs) (some '\\' :: some e :: text)
  | unit {h₁ h₂ h₃ h₄ c : Char} {cs : List Char} {text : List Symbol} :
      Text.Hex.number? 0 [h₁, h₂, h₃, h₄] = some c.toNat → SpellsChars cs text →
      SpellsChars (c :: cs)
        (some '\\' :: some 'u' :: some h₁ :: some h₂ :: some h₃ :: some h₄ :: text)
  | pair {h₁ h₂ h₃ h₄ l₁ l₂ l₃ l₄ c : Char} {high low : Nat} {cs : List Char}
      {text : List Symbol} :
      Text.Hex.number? 0 [h₁, h₂, h₃, h₄] = some high → 0xD800 ≤ high → high ≤ 0xDBFF →
      Text.Hex.number? 0 [l₁, l₂, l₃, l₄] = some low → 0xDC00 ≤ low → low ≤ 0xDFFF →
      c.toNat = 0x10000 + (high - 0xD800) * 0x400 + (low - 0xDC00) → SpellsChars cs text →
      SpellsChars (c :: cs)
        (some '\\' :: some 'u' :: some h₁ :: some h₂ :: some h₃ :: some h₄ ::
          some '\\' :: some 'u' :: some l₁ :: some l₂ :: some l₃ :: some l₄ :: text)

/-- A string. -/
inductive SpellsString (s : String) : List Symbol → Prop
  | intro {body : List Symbol} : SpellsChars s.toList body →
      SpellsString s (some '"' :: (body ++ [some '"']))

/-! ## Values -/

/-- A value that holds no other. -/
inductive SpellsScalar : Tree → List Symbol → Prop
  | null : SpellsScalar .null [some 'n', some 'u', some 'l', some 'l']
  | true : SpellsScalar (.bool true) [some 't', some 'r', some 'u', some 'e']
  | false : SpellsScalar (.bool false) [some 'f', some 'a', some 'l', some 's', some 'e']
  | number {l : Literal} {n : Number} {text : List Symbol} :
      SpellsLiteral l text → l.number? = some n → SpellsScalar (.number n) text
  | string {s : String} {text : List Symbol} : SpellsString s text → SpellsScalar (.string s) text

/-- A member: its key, a colon and its value. -/
inductive SpellsMember (P : Tree → List Symbol → Prop) :
    Option String × Tree → List Symbol → Prop
  | intro {key : String} {t : Tree} {name gap gap' text : List Symbol} :
      SpellsString key name → Spaces gap → Spaces gap' → P t text →
      SpellsMember P (some key, t) (name ++ (gap ++ some ':' :: (gap' ++ text)))

/-- A value, given how the values in it are spelled. -/
inductive SpellsValue (P : Tree → List Symbol → Prop) : Tree → List Symbol → Prop
  | scalar {t : Tree} {text : List Symbol} : SpellsScalar t text → SpellsValue P t text
  | emptyArray {gap : List Symbol} : Spaces gap →
      SpellsValue P (.array []) (some '[' :: (gap ++ [some ']']))
  | array {ts : List Tree} {body : List Symbol} : Listing P ts body →
      SpellsValue P (.array ts) (some '[' :: (body ++ [some ']']))
  | emptyObject {gap : List Symbol} : Spaces gap →
      SpellsValue P (.object []) (some '{' :: (gap ++ [some '}']))
  | object {ms : List (Option String × Tree)} {body : List Symbol} :
      Listing (SpellsMember P) ms body →
      SpellsValue P (.object ms) (some '{' :: (body ++ [some '}']))

/-- A value of at most so many levels. -/
def Spells : Nat → Tree → List Symbol → Prop
  | 0 => SpellsScalar
  | levels + 1 => SpellsValue (Spells levels)

/-- A text that is one value of at most so many levels, with only spaces around it. -/
def IsText (levels : Nat) (t : Tree) (s : String) : Prop :=
  Spaced (Spells levels t) (s.toList.map some)

theorem Spells.scalar {t : Tree} {text : List Symbol} (h : SpellsScalar t text) :
    ∀ levels, Spells levels t text
  | 0 => h
  | _ + 1 => SpellsValue.scalar h

end Dialogue.Json
