import Dialogue.Text.Blank
import Dialogue.Text.Decimal
import Dialogue.Text.Parts

/-!
# Heads of responses

A response begins with its head: a line with its status, a line for each header, and an
empty line. `Head.parse?` reads a head. What counts of it is the status, and how the end
of the body is told; a head that leaves this open, or says two different things, is none.
-/

namespace Dialogue.Http

/-- How the end of a body is told. -/
inductive Framing where
  /-- So many octets are still to come. -/
  | length (left : Nat)
  | chunked
  | untilClose
  deriving DecidableEq, Repr

/-- A header. -/
structure Header where
  /-- Its name in small letters. -/
  name : String
  value : List Char
  deriving DecidableEq, Repr

namespace Header

/-- Whether a character can stand in the name of a header. -/
def isNameChar (c : Char) : Bool :=
  c.isAlphanum ||
    ['!', '#', '$', '%', '&', '\'', '*', '+', '-', '.', '^', '_', '`', '|', '~'].contains c

/-- Whether a character can stand in the value of a header, or in the reason for a
    status. -/
def isTextChar (c : Char) : Bool :=
  c == '\t' || (0x20 ≤ c.toNat && c.toNat != 0x7F)

/-- A text without spaces and tabs at its beginning. -/
def dropGap (cs : List Char) : List Char :=
  cs.dropWhile fun c => c == ' ' || c == '\t'

/-- The header in a line: its name, a colon right behind it, and its value. -/
def parse? (line : List Char) : Option Header :=
  let name := line.takeWhile (· != ':')
  match line.dropWhile (· != ':') with
  | _ :: value =>
    if !name.isEmpty && name.all isNameChar && value.all isTextChar then
      some ⟨String.ofList (name.map Char.toLower), (dropGap (dropGap value).reverse).reverse⟩
    else none
  | [] => none

/-- The values of the headers with a name. -/
def values (name : String) (headers : List Header) : List (List Char) :=
  (headers.filter (·.name == name)).map (·.value)

/-- Whether a value has no characters beyond the first 128. -/
def isPlain (value : List Char) : Bool :=
  value.all fun c => c.toNat < 0x80

/-! ## Lines -/

/-- A line without the carriage return at its end. -/
def withoutReturn (cs : List Char) : List Char :=
  if cs.getLast? = some '\r' then cs.dropLast else cs

/-- The lines of a head or of what follows a body, without their ends. -/
def lines (octets : List UInt8) : List (List Char) :=
  (Text.partsAt '\n' (octets.map fun b => Char.ofNat b.toNat)).map withoutReturn

/-- The headers in the lines before the first empty one, if there are at most so many. -/
def ofLines? (most : Nat) (ls : List (List Char)) : Option (List Header) :=
  let ls := ls.takeWhile (!·.isEmpty)
  if ls.length ≤ most then ls.mapM parse? else none

/-! ## The end of a body -/

/-- Whether the last coding of a body is that it comes in chunks. -/
def isChunked (codings : List (List Char)) : Bool :=
  codings.getLast?.any fun value =>
    isPlain value && (Text.partsAt ',' value).getLast?.any fun coding =>
      (Text.trimChars coding).map Char.toLower == "chunked".toList

/-- The greatest length that a body can have. -/
def mostOctets : Nat := 18446744073709551613

/-- The length that is told, once or more often. -/
def length? (values : List (List Char)) : Option Nat :=
  if !values.all isPlain then none
  else
    match (values.flatMap (Text.partsAt ',')).mapM (Text.Decimal.number? <| Text.trimChars ·) with
    | some (n :: ns) => if n ≤ mostOctets ∧ ns.all (· == n) then some n else none
    | _ => none

end Header

/-- What the head of a response says. -/
structure Head where
  status : Nat
  framing : Framing
  deriving DecidableEq, Repr

namespace Head

/-- Whether a number can be a status. -/
def isStatus (n : Nat) : Bool :=
  100 ≤ n && n < 1000

/-- Whether a response with a status has no body. -/
def isBodiless (status : Nat) : Bool :=
  status == 101 || status == 204 || status == 304

/-- Whether a response with a status only goes before the one that counts. -/
def isPassing (status : Nat) : Bool :=
  100 ≤ status && status < 200 && status != 101

/-- Which version of the protocol a response is in. -/
inductive Version where
  /-- The one of 1996, without chunks. -/
  | early
  | current
  deriving DecidableEq, Repr

/-- The version that a digit stands for. -/
def versionOf? : Char → Option Version
  | '0' => some .early
  | '1' => some .current
  | _ => none

/-- Whether a reason for a status follows in the right way, if one does. -/
def isReason : List Char → Bool
  | [] => true
  | c :: cs => c == ' ' && cs.all Header.isTextChar

/-- The version and the status in the first line, which a reason may follow. -/
def status? : List Char → Option (Version × Nat)
  | 'H' :: 'T' :: 'T' :: 'P' :: '/' :: '1' :: '.' :: minor :: ' ' :: a :: b :: c :: reason => do
    let version ← versionOf? minor
    let status ← (Text.Decimal.number? [a, b, c]).filter isStatus
    if isReason reason then some (version, status) else none
  | _ => none

/-- How the body is framed that follows headers, if they are clear about it. -/
def framing? (version : Version) (headers : List Header) : Option Framing :=
  let codings := Header.values "transfer-encoding" headers
  let lengths := Header.values "content-length" headers
  if !codings.isEmpty then
    if version = .early then none
    else some (if Header.isChunked codings then .chunked else .untilClose)
  else if lengths.isEmpty then some .untilClose
  else (Header.length? lengths).map .length

/-- How many headers a head can have. -/
def mostHeaders : Nat := 100

/-- What a head says. -/
def parse? (octets : List UInt8) : Option Head :=
  match Header.lines octets with
  | [] => none
  | first :: rest => do
    let (version, status) ← status? first
    let headers ← Header.ofLines? mostHeaders rest
    if isBodiless status || isPassing status then some ⟨status, .length 0⟩
    else (framing? version headers).map (⟨status, ·⟩)

end Head

end Dialogue.Http
