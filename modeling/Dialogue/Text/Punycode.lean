/-!
# Names in plain letters

A name with letters beyond the first 128 characters is written with plain letters and
digits (Punycode): first its plain characters, then a hyphen, then numbers that tell
where the others go, in order of their own numbers. A number has digits of base 36,
the lowest first; a digit below a threshold ends it, and the thresholds follow the
size of the numbers so far (`adapt`).
-/

namespace Dialogue.Text.Punycode

/-! ## Digits -/

/-- A digit of base 36. -/
def digit (n : Nat) : Char :=
  if n < 26 then Char.ofNat (0x61 + n) else Char.ofNat (0x16 + n)

/-- The value of a digit. -/
def value? (c : Char) : Option Nat :=
  if 'a' ≤ c ∧ c ≤ 'z' then some (c.toNat - 0x61)
  else if 'A' ≤ c ∧ c ≤ 'Z' then some (c.toNat - 0x41)
  else if '0' ≤ c ∧ c ≤ '9' then some (c.toNat - 0x16)
  else none

/-- Whether a character is written as it is. -/
def isPlain (c : Char) : Bool :=
  c.toNat < 0x80

/-! ## Thresholds -/

/-- The threshold of a digit, given the bias; the first digit is at 36. -/
def threshold (bias position : Nat) : Nat :=
  if position ≤ bias then 1 else min 26 (position - bias)

/-- Bring a difference below 456, counting the divisions. -/
def scale (delta divisions : Nat) : Nat × Nat :=
  if 455 < delta then scale (delta / 35) (divisions + 1) else (delta, divisions)
termination_by delta
decreasing_by omega

/-- The bias after a number, given how many characters there are then. -/
def adapt (delta count : Nat) (isFirst : Bool) : Nat :=
  let delta := if isFirst then delta / 700 else delta / 2
  let (delta, divisions) := scale (delta + delta / count) 0
  36 * divisions + 36 * delta / (delta + 38)

/-- The bias at the beginning. -/
def firstBias : Nat := 72

/-- The first character that is not plain. -/
def firstNumber : Nat := 0x80

/-! ## Writing -/

/-- The digits of a number from a position on. The fuel bounds their count. -/
def digits (bias : Nat) : Nat → Nat → Nat → List Char
  | 0, _, _ => []
  | fuel + 1, position, n =>
    let t := threshold bias position
    if n < t then [digit n]
    else digit (t + (n - t) % (36 - t)) :: digits bias fuel (position + 36) ((n - t) / (36 - t))

/-- What is known while the characters of a name are gone through. -/
structure Writing where
  /-- What is written, piece by piece, the newest first. -/
  pieces : List (List Char) := []
  delta : Nat := 0
  bias : Nat := firstBias
  /-- How many characters are written. -/
  count : Nat
  /-- Whether nothing but plain characters is written. -/
  isFirst : Bool := true

/-- Pass by a character of the name while the character with a number is due. -/
def Writing.pass (number : Nat) (w : Writing) (c : Char) : Writing :=
  if c.toNat < number then { w with delta := w.delta + 1 }
  else if c.toNat = number then
    { pieces := digits w.bias (w.delta + 1) 36 w.delta :: w.pieces
      delta := 0
      bias := adapt w.delta (w.count + 1) w.isFirst
      count := w.count + 1
      isFirst := false }
  else w

/-- Write the characters with certain numbers, in order, of which those below `next`
    are done. -/
def Writing.run (name : List Char) (next : Nat) (w : Writing) : List Nat → Writing
  | [] => w
  | number :: rest =>
    let w := { w with delta := w.delta + (number - next) * (w.count + 1) }
    let w := name.foldl (Writing.pass number) w
    Writing.run name (number + 1) { w with delta := w.delta + 1 } rest

/-- Put a number among others in order, once. -/
def insertOnce (n : Nat) : List Nat → List Nat
  | [] => [n]
  | m :: rest =>
    if n < m then n :: m :: rest else if n = m then m :: rest else m :: insertOnce n rest

/-- The numbers of the characters of a name that are not plain, in order. -/
def numbers (name : List Char) : List Nat :=
  (name.filter fun c => !isPlain c).foldl (fun ns c => insertOnce c.toNat ns) []

/-- A name in plain characters. -/
def encode (name : List Char) : List Char :=
  let plain := name.filter isPlain
  let w := Writing.run name firstNumber { count := plain.length } (numbers name)
  plain ++ (if plain.isEmpty then [] else ['-']) ++ w.pieces.reverse.flatten

/-! ## Reading -/

/-- Numbers and weights are below this. -/
def numberBound : Nat := 0x100000000

/-- Read a number after what is read of it, with the weight and the position of the
    next digit: the number, and what follows it. -/
def number? (bias weight position read : Nat) : List Char → Option (Nat × List Char)
  | [] => none
  | c :: rest =>
    match value? c with
    | none => none
    | some d =>
      let t := threshold bias position
      let read := read + d * weight
      if numberBound ≤ weight ∨ numberBound ≤ read then none
      else if d < t then some (read, rest)
      else number? bias (weight * (36 - t)) (position + 36) read rest

/-- Put characters into a name. The next one goes to an index at the earliest and has
    a number at the least. The fuel bounds their count. -/
def insertAll (fuel bias number index : Nat) (name : List Char) :
    List Char → Option (List Char)
  | [] => some name
  | c :: cs =>
    match fuel with
    | 0 => none
    | fuel + 1 => do
      let (total, rest) ← number? bias 1 36 index (c :: cs)
      let count := name.length + 1
      let number := number + total / count
      if number.isValidChar then
        let here := total % count
        insertAll fuel (adapt (total - index) count (name.all isPlain)) number (here + 1)
          (name.take here ++ Char.ofNat number :: name.drop here) rest
      else none

/-- The name that plain characters stand for. A hyphen comes after plain characters of
    the name, so it cannot come first. -/
def decode? (cs : List Char) : Option (List Char) :=
  let behind := (cs.reverse.takeWhile (· != '-')).reverse
  let before := cs.take (cs.length - behind.length)
  if before = ['-'] ∨ !cs.all isPlain then none
  else insertAll behind.length firstBias firstNumber 0 before.dropLast behind

end Dialogue.Text.Punycode
