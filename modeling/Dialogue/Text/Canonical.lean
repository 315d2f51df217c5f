import Dialogue.Text.Canonical.Table
import Dialogue.Text.Span

/-!
# The one spelling of a text with accents

A letter with an accent is one character, or a letter and a mark behind it, and marks
on one letter may come in several orders. `compose` gives the one spelling (NFC) that
all of these have in common: every letter is taken apart (`decompose`), the marks are
put in order of their ranks (`arrange`), and then as much as possible is put together
again.
-/

namespace Dialogue.Text.Canonical

/-! ## Ranks -/

/-- The ranks of marks. -/
def ranks : List (Nat × List Span) :=
  rankLines.map fun (rank, lines) => (rank, Span.ofLines lines)

/-- The rank of a mark among those on a letter; what is no such mark has none. -/
def rank (c : Char) : Nat :=
  match ranks.find? fun (_, spans) => spans.any (·.contains c) with
  | some (r, _) => r
  | none => 0

/-! ## Two characters and one -/

/-- Two characters, and the one that is both. -/
structure Composition where
  first : Nat
  second : Nat
  whole : Nat
  deriving DecidableEq, Repr

/-- The compositions of the table. -/
def compositions : List Composition :=
  compositionLines.flatMap fun (second, lines) =>
    (lines.flatMap (·.splitOn " ")).filterMap fun w =>
      (hexPair? '>' w.toList).map fun (first, whole) => ⟨first, second, whole⟩

/-- The first Korean syllable, and the first of its three kinds of parts; the count of
    final parts includes the missing one. -/
def syllableBase : Nat := 0xAC00
def initialBase : Nat := 0x1100
def medialBase : Nat := 0x1161
def finalBase : Nat := 0x11A7
def initialCount : Nat := 19
def medialCount : Nat := 21
def finalCount : Nat := 28

/-- The place of a number in a row that begins at another, if it is in the row. -/
def place? (base count n : Nat) : Option Nat :=
  if base ≤ n ∧ n < base + count then some (n - base) else none

/-- The Korean syllable that two characters are. -/
def joinSyllable? (a b : Nat) : Option Nat :=
  match place? initialBase initialCount a, place? medialBase medialCount b with
  | some i, some m => some (syllableBase + (i * medialCount + m) * finalCount)
  | _, _ =>
    match place? syllableBase (initialCount * medialCount * finalCount) a,
        place? finalBase finalCount b with
    | some s, some f => if s % finalCount = 0 ∧ f ≠ 0 then some (a + f) else none
    | _, _ => none

/-- The two characters that a Korean syllable is. -/
def splitSyllable? (n : Nat) : Option (Nat × Nat) :=
  (place? syllableBase (initialCount * medialCount * finalCount) n).map fun s =>
    if s % finalCount = 0 then
      (initialBase + s / finalCount / medialCount, medialBase + s / finalCount % medialCount)
    else (n - s % finalCount, finalBase + s % finalCount)

/-- The one character that two are. -/
def join? (a b : Char) : Option Char :=
  match joinSyllable? a.toNat b.toNat with
  | some n => some (Char.ofNat n)
  | none =>
    (compositions.find? fun x => x.first == a.toNat && x.second == b.toNat).map fun x =>
      Char.ofNat x.whole

/-- The two characters that one is. -/
def split? (c : Char) : Option (Char × Char) :=
  match splitSyllable? c.toNat with
  | some (a, b) => some (Char.ofNat a, Char.ofNat b)
  | none =>
    (compositions.find? fun x => x.whole == c.toNat).map fun x =>
      (Char.ofNat x.first, Char.ofNat x.second)

/-! ## Taking apart -/

/-- A character taken apart so many times. -/
def decomposeFrom : Nat → Char → List Char
  | 0, c => [c]
  | times + 1, c =>
    match split? c with
    | some (a, b) => decomposeFrom times a ++ [b]
    | none => [c]

/-- A character taken apart; no letter has more than four marks. -/
def decompose (c : Char) : List Char :=
  decomposeFrom 4 c

/-! ## Order -/

/-- Put a character behind others, the newest first: a mark goes before those of a
    higher rank. -/
def place (c : Char) : List Char → List Char
  | [] => [c]
  | d :: before => if rank c ≠ 0 ∧ rank c < rank d then d :: place c before else c :: d :: before

/-- A text with the marks on each letter in order of their ranks. -/
def arrange (cs : List Char) : List Char :=
  (cs.foldl (fun before c => place c before) []).reverse

/-! ## Putting together -/

/-- Put a text together after a letter and marks that stay apart from it, the newest
    first. A mark of the same rank keeps the next one from the letter. -/
def composeFrom (base : Char) (marks : List Char) : List Char → List Char
  | [] => base :: marks.reverse
  | c :: rest =>
    let isNext := match marks with
      | [] => true
      | m :: _ => rank m < rank c
    match if isNext then join? base c else none with
    | some whole => composeFrom whole marks rest
    | none =>
      if rank c = 0 then base :: marks.reverse ++ composeFrom c [] rest
      else composeFrom base (c :: marks) rest

/-- The one spelling of a text. -/
def compose (cs : List Char) : List Char :=
  match arrange (cs.flatMap decompose) with
  | [] => []
  | c :: rest => composeFrom c [] rest

end Dialogue.Text.Canonical
