import Dialogue.Text.Decimal
import Dialogue.Text.Hex

/-!
# TOML literals

The single values of a document: strings in their four forms, numbers, dates and
times. Each reader takes the input from the first character of its literal and
gives the value with what follows it. A reader that finds a malformed literal may
also stop in its middle, where nothing that is allowed to follow can follow.
-/

namespace Dialogue.Toml

/-! ## Characters -/

/-- Space and tab. -/
def isSpace (c : Char) : Bool :=
  c == ' ' || c == '\t'

/-- The characters of comments: no control characters but the tab. -/
def isCommentChar (c : Char) : Bool :=
  c == '\t' || (0x20 ≤ c.toNat && c.toNat != 0x7F)

/-- The decimal digits. -/
def isDigit (c : Char) : Bool :=
  '0' ≤ c && c ≤ '9'

/-- What follows a line end at the start of the input. -/
def lineEnd? : List Char → Option (List Char)
  | '\n' :: rest => some rest
  | '\r' :: '\n' :: rest => some rest
  | _ => none

/-- The input without a line end at its start. -/
def dropLineEnd (input : List Char) : List Char :=
  (lineEnd? input).getD input

/-- The input without spaces and line ends at its start. -/
def dropSpacesAndLines : List Char → List Char
  | [] => []
  | '\r' :: '\n' :: rest => dropSpacesAndLines rest
  | c :: rest => if isSpace c || c == '\n' then dropSpacesAndLines rest else c :: rest

/-! ## Strings -/

/-- The character with a number, if it is one. -/
def scalar? (n : Nat) : Option Char :=
  if n.isValidChar then some (Char.ofNat n) else none

/-- The character that an escape after its backslash stands for, and what follows
    it. -/
def escape? : List Char → Option (Char × List Char)
  | 'b' :: rest => some ('\x08', rest)
  | 't' :: rest => some ('\t', rest)
  | 'n' :: rest => some ('\n', rest)
  | 'f' :: rest => some ('\x0c', rest)
  | 'r' :: rest => some ('\r', rest)
  | '"' :: rest => some ('"', rest)
  | '\\' :: rest => some ('\\', rest)
  | 'u' :: a :: b :: c :: d :: rest =>
    ((Text.Hex.number? 0 [a, b, c, d]).bind scalar?).map (·, rest)
  | 'U' :: a :: b :: c :: d :: e :: f :: g :: h :: rest =>
    ((Text.Hex.number? 0 [a, b, c, d, e, f, g, h]).bind scalar?).map (·, rest)
  | _ => none

/-- A string on one line with escapes, after its opening quote. The characters
    read so far stand newest first, and the fuel bounds the steps. -/
def basicFrom (fuel : Nat) (read : List Char) (input : List Char) :
    Option (List Char × List Char) :=
  match fuel with
  | 0 => none
  | fuel + 1 =>
    match input with
    | '"' :: rest => some (read.reverse, rest)
    | '\\' :: rest =>
      match escape? rest with
      | some (c, rest) => basicFrom fuel (c :: read) rest
      | none => none
    | c :: rest => if isCommentChar c then basicFrom fuel (c :: read) rest else none
    | [] => none

/-- What follows a backslash that ends a line: the string goes on with the next
    character that is neither space nor line end. -/
def continuation? (input : List Char) : Option (List Char) :=
  (lineEnd? (input.dropWhile isSpace)).map dropSpacesAndLines

/-- A string over several lines with escapes, after its opening quotes. Up to two
    quotes may stand right before the closing ones. -/
def longBasicFrom (fuel : Nat) (read : List Char) (input : List Char) :
    Option (List Char × List Char) :=
  match fuel with
  | 0 => none
  | fuel + 1 =>
    match input with
    | '"' :: '"' :: '"' :: '"' :: '"' :: rest => some (('"' :: '"' :: read).reverse, rest)
    | '"' :: '"' :: '"' :: '"' :: rest => some (('"' :: read).reverse, rest)
    | '"' :: '"' :: '"' :: rest => some (read.reverse, rest)
    | '\\' :: rest =>
      match continuation? rest with
      | some rest => longBasicFrom fuel read rest
      | none =>
        match escape? rest with
        | some (c, rest) => longBasicFrom fuel (c :: read) rest
        | none => none
    | '\r' :: '\n' :: rest => longBasicFrom fuel ('\n' :: read) rest
    | c :: rest =>
      if isCommentChar c || c == '\n' then longBasicFrom fuel (c :: read) rest else none
    | [] => none

/-- A string on one line without escapes, after its opening quote. -/
def plainFrom (read : List Char) : List Char → Option (List Char × List Char)
  | '\'' :: rest => some (read.reverse, rest)
  | c :: rest => if isCommentChar c then plainFrom (c :: read) rest else none
  | [] => none

/-- A string over several lines without escapes, after its opening quotes. -/
def longPlainFrom (read : List Char) : List Char → Option (List Char × List Char)
  | '\'' :: '\'' :: '\'' :: '\'' :: '\'' :: rest => some (('\'' :: '\'' :: read).reverse, rest)
  | '\'' :: '\'' :: '\'' :: '\'' :: rest => some (('\'' :: read).reverse, rest)
  | '\'' :: '\'' :: '\'' :: rest => some (read.reverse, rest)
  | '\r' :: '\n' :: rest => longPlainFrom ('\n' :: read) rest
  | c :: rest => if isCommentChar c || c == '\n' then longPlainFrom (c :: read) rest else none
  | [] => none

/-- A string on one line, in either form. -/
def line? : List Char → Option (List Char × List Char)
  | '"' :: rest => basicFrom (rest.length + 1) [] rest
  | '\'' :: rest => plainFrom [] rest
  | _ => none

/-- A string in any form. A line end right after the opening of a long one does
    not belong to it. -/
def string? : List Char → Option (List Char × List Char)
  | '"' :: '"' :: '"' :: rest => longBasicFrom (rest.length + 1) [] (dropLineEnd rest)
  | '\'' :: '\'' :: '\'' :: rest => longPlainFrom [] (dropLineEnd rest)
  | input => line? input

/-! ## Numbers -/

/-- The digits after a first one; a bar may stand between two digits. -/
def moreDigits? (isDigit : Char → Bool) : List Char → Option (List Char × List Char)
  | '_' :: c :: rest =>
    if isDigit c then (moreDigits? isDigit rest).map fun (ds, rest) => (c :: ds, rest) else none
  | ['_'] => none
  | c :: rest =>
    if isDigit c then (moreDigits? isDigit rest).map fun (ds, rest) => (c :: ds, rest)
    else some ([], c :: rest)
  | [] => some ([], [])

/-- A run of at least one digit. -/
def digits? (isDigit : Char → Bool) : List Char → Option (List Char × List Char)
  | c :: rest =>
    if isDigit c then (moreDigits? isDigit rest).map fun (ds, rest) => (c :: ds, rest) else none
  | [] => none

/-- Digits without a leading zero. -/
def wholeDigits? : List Char → Option (List Char × List Char)
  | '0' :: rest => some (['0'], rest)
  | input => digits? isDigit input

/-- Whether a number is negative, and what follows the sign. -/
def sign : List Char → Bool × List Char
  | '-' :: rest => (true, rest)
  | '+' :: rest => (false, rest)
  | input => (false, input)

/-- A number with a sign. -/
def signed (negative : Bool) (n : Nat) : Int :=
  if negative then -n else n

/-- An integer of 64 bits. -/
def integer? (i : Int) : Option Int :=
  if -9223372036854775808 ≤ i ∧ i < 9223372036854775808 then some i else none

/-- Whether `n * 10 ^ e` is so large that its nearest double would be infinite:
    from the middle between the largest double and `2 ^ 1024` on. Numbers with
    more than 310 places are, and ones with fewer than 300 are not. -/
def isTooLarge (n : Nat) (e : Int) : Bool :=
  let places := (Nat.toDigits 10 n).length + e
  if n = 0 ∨ places < 300 then false
  else if 310 < places then true
  else
    let limit := Nat.pow 2 1024 - Nat.pow 2 970
    if 0 ≤ e then limit ≤ n * Nat.pow 10 e.toNat else limit * Nat.pow 10 (-e).toNat ≤ n

/-- The digits after a point, if there is one. -/
def fraction? : List Char → Option (List Char × List Char)
  | '.' :: rest => digits? isDigit rest
  | input => some ([], input)

/-- The exponent, if there is one. -/
def exponent? : List Char → Option (Int × List Char)
  | [] => some (0, [])
  | c :: rest =>
    if c = 'e' ∨ c = 'E' then
      let (negative, rest) := sign rest
      (digits? isDigit rest).map fun (ds, rest) =>
        (signed negative (Text.Decimal.number ds), rest)
    else some (0, c :: rest)

/-- A decimal number: an integer, or a number with a fraction or an exponent. -/
def decimalNumber? (input : List Char) : Option (Option Int × List Char) := do
  let (negative, rest) := sign input
  let (whole, rest) ← wholeDigits? rest
  let (fraction, afterFraction) ← fraction? rest
  let (exponent, afterExponent) ← exponent? afterFraction
  if afterExponent.length = rest.length then
    let i ← integer? (signed negative (Text.Decimal.number whole))
    some (some i, rest)
  else
    let n := Text.Decimal.number (whole ++ fraction)
    if !negative && isTooLarge n (exponent - fraction.length) then none
    else some (none, afterExponent)

/-- The digits of a base. -/
def isDigitOf (base : Nat) (c : Char) : Bool :=
  match Text.Hex.value? c with
  | some d => d < base
  | none => false

/-- An integer in a base other than ten, after its mark. -/
def based? (base : Nat) (input : List Char) : Option (Int × List Char) := do
  let (ds, rest) ← digits? (isDigitOf base) input
  let n := ds.foldl (fun n c => n * base + (Text.Hex.value? c).getD 0) 0
  let i ← integer? n
  some (i, rest)

/-- What follows infinity or not-a-number, with or without a sign. -/
def special? (input : List Char) : Option (List Char) :=
  match (sign input).2 with
  | 'i' :: 'n' :: 'f' :: rest => some rest
  | 'n' :: 'a' :: 'n' :: rest => some rest
  | _ => none

/-- A number, with its value if it is an integer. -/
def number? : List Char → Option (Option Int × List Char)
  | '0' :: 'x' :: rest => (based? 16 rest).map fun (i, rest) => (some i, rest)
  | '0' :: 'o' :: rest => (based? 8 rest).map fun (i, rest) => (some i, rest)
  | '0' :: 'b' :: rest => (based? 2 rest).map fun (i, rest) => (some i, rest)
  | input =>
    match special? input with
    | some rest => some (none, rest)
    | none => decimalNumber? input

/-! ## Dates and times -/

/-- A number of exactly so many digits, within bounds. -/
def fixed? (count low high : Nat) (input : List Char) : Option (Nat × List Char) :=
  let ds := input.take count
  let n := Text.Decimal.number ds
  if ds.length = count ∧ ds.all isDigit ∧ low ≤ n ∧ n ≤ high then some (n, input.drop count)
  else none

/-- What follows a character at the start of the input. -/
def expect? (c : Char) : List Char → Option (List Char)
  | d :: rest => if d = c then some rest else none
  | [] => none

/-- How many days a month has. -/
def daysOf (year month : Nat) : Nat :=
  if month = 2 then
    (if year % 4 = 0 ∧ (year % 100 ≠ 0 ∨ year % 400 = 0) then 29 else 28)
  else if [4, 6, 9, 11].contains month then 30
  else 31

/-- What follows a date. -/
def date? (input : List Char) : Option (List Char) := do
  let (year, rest) ← fixed? 4 0 9999 input
  let rest ← expect? '-' rest
  let (month, rest) ← fixed? 2 1 12 rest
  let rest ← expect? '-' rest
  let (_, rest) ← fixed? 2 1 (daysOf year month) rest
  some rest

/-- What follows the fraction of a second, if there is one. -/
def dropSecondFraction : List Char → List Char
  | '.' :: c :: rest => if isDigit c then rest.dropWhile isDigit else '.' :: c :: rest
  | input => input

/-- What follows a time of day. A leap second is allowed. -/
def time? (input : List Char) : Option (List Char) := do
  let (_, rest) ← fixed? 2 0 23 input
  let rest ← expect? ':' rest
  let (_, rest) ← fixed? 2 0 59 rest
  let rest ← expect? ':' rest
  let (_, rest) ← fixed? 2 0 60 rest
  some (dropSecondFraction rest)

/-- What follows the distance from Greenwich, if it is given. -/
def dropOffset (input : List Char) : List Char :=
  let distance? (rest : List Char) : Option (List Char) := do
    let (_, rest) ← fixed? 2 0 23 rest
    let rest ← expect? ':' rest
    let (_, rest) ← fixed? 2 0 59 rest
    some rest
  match input with
  | 'Z' :: rest | 'z' :: rest => rest
  | '+' :: rest | '-' :: rest => (distance? rest).getD input
  | _ => input

/-- What follows a date, a time, or both. -/
def moment? (input : List Char) : Option (List Char) :=
  match date? input with
  | none => time? input
  | some rest =>
    match rest with
    | [] => some []
    | c :: after =>
      if c = 'T' ∨ c = 't' ∨ c = ' ' then
        some (((time? after).map dropOffset).getD rest)
      else some rest

end Dialogue.Toml
