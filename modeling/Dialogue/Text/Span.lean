import Dialogue.Text.Hex

/-!
# Spans of characters

A property of characters is written down as words such as `300-36F` and `5BF`, each
for the characters from one number to another in base 16. `Span.ofLines` reads them.
-/

namespace Dialogue.Text

/-- Two numbers in base 16 with a mark between them. -/
def hexPair? (mark : Char) (word : List Char) : Option (Nat × Nat) := do
  let first ← Hex.number? 0 (word.takeWhile (· != mark))
  match word.dropWhile (· != mark) with
  | [] => none
  | _ :: rest => (Hex.number? 0 rest).map fun second => (first, second)

/-- The characters from one to another, both included, by number. -/
structure Span where
  first : Nat
  last : Nat
  deriving DecidableEq, Repr

namespace Span

/-- Whether a character is one of a span. -/
def contains (s : Span) (c : Char) : Bool :=
  s.first ≤ c.toNat && c.toNat ≤ s.last

/-- The span that a word stands for. -/
def ofWord? (word : List Char) : Option Span :=
  match hexPair? '-' word with
  | some (first, last) => some ⟨first, last⟩
  | none => (Hex.number? 0 word).map fun n => ⟨n, n⟩

/-- The spans that lines of words stand for. -/
def ofLines (lines : List String) : List Span :=
  (lines.flatMap (·.splitOn " ")).filterMap fun w => ofWord? w.toList

end Span

end Dialogue.Text
