import Dialogue.Http.Host
import Dialogue.Text.Decimal

/-!
# Addresses of the web

An address is read into its parts before it is used: who asks, the host and port to
connect to, the path and query to ask for. On the way it is brought into the usual
form: characters that cannot stand in an address are percent-encoded, the segments
`.` and `..` are resolved, and a backslash counts as a slash.
-/

namespace Dialogue.Http

/-- The parts of an address. -/
structure Url where
  scheme : String
  /-- The name of who asks, percent-encoded. -/
  user : String := ""
  password : Option String := none
  host : Host
  /-- The port, unless it is the usual one. -/
  givenPort : Option Nat := none
  path : String
  query : Option String
  fragment : Option String
  deriving DecidableEq, Repr

namespace Url

/-! ## Characters -/

/-- Whether an octet cannot stand in any part of an address. -/
def isAlwaysEncoded (b : UInt8) : Bool :=
  b ≤ 0x20 || 0x7F ≤ b || b == 0x22 || b == 0x3C || b == 0x3E

/-- An octet, percent-encoded if it cannot stand as it is or is among others. -/
def encodeByte (others : List Char) (b : UInt8) : List Char :=
  if isAlwaysEncoded b || others.contains (Char.ofNat b.toNat) then Text.Percent.escape b
  else [Char.ofNat b.toNat]

/-- A text with the octets percent-encoded that cannot stand in it. -/
def encode (others : List Char) (cs : List Char) : List Char :=
  (cs.flatMap String.utf8EncodeChar).flatMap (encodeByte others)

/-- What else is encoded in a path. -/
def pathOthers : List Char := ['`', '#', '?', '\x7b', '\x7d']

/-- What else is encoded in the name and the password of who asks. -/
def userOthers : List Char :=
  pathOthers ++ ['/', ':', ';', '=', '@', '[', '\\', ']', '^', '|']

/-- What else is encoded in a query. -/
def queryOthers : List Char := ['#', '\'']

/-- What else is encoded in a fragment. -/
def fragmentOthers : List Char := ['`']

/-! ## Paths -/

/-- Whether a character separates segments. -/
def isSlash (c : Char) : Bool :=
  c == '/' || c == '\\'

/-- The segments between slashes. -/
def segments : List Char → List (List Char)
  | [] => [[]]
  | c :: rest =>
    if isSlash c then [] :: segments rest
    else
      match segments rest with
      | [] => [[c]]
      | s :: ss => (c :: s) :: ss

/-- A segment with encoded points decoded and in lower case. -/
def withPoints : List Char → List Char
  | '%' :: '2' :: e :: rest =>
    if e = 'e' ∨ e = 'E' then '.' :: withPoints rest else '%' :: '2' :: withPoints (e :: rest)
  | c :: rest => c :: withPoints rest
  | [] => []
termination_by cs => cs.length

/-- Whether a segment means the place itself. -/
def isHere (s : List Char) : Bool :=
  withPoints s == ['.']

/-- Whether a segment means the place above. -/
def isAbove (s : List Char) : Bool :=
  withPoints s == ['.', '.']

/-- Whether a segment names a drive, above which there is nothing. -/
def isDrive : List Char → Bool
  | [letter, mark] => letter.isAlpha && (mark == ':' || mark == '|')
  | _ => false

/-- The place above that of some segments, the newest first. -/
def above : List (List Char) → List (List Char)
  | [] => []
  | s :: before => if isDrive s then s :: before else before

/-- Resolve segments, with those before them, the newest first. The last segment
    leaves an open end if it means a place. -/
def resolve (before : List (List Char)) : List (List Char) → List (List Char)
  | [] => before.reverse
  | [s] =>
    if isAbove s then ([] :: above before).reverse
    else if isHere s then ([] :: before).reverse
    else (s :: before).reverse
  | s :: rest =>
    if isAbove s then resolve (above before) rest
    else if isHere s then resolve before rest
    else resolve (s :: before) rest

/-- The usual form of a path that starts with a slash or is empty. -/
def normalPath (cs : List Char) : List Char :=
  (resolve [] (segments (cs.drop 1))).flatMap fun s => '/' :: encode pathOthers s

/-! ## Schemes -/

/-- The schemes that are known, with their usual ports. -/
def usualPorts : List (String × Nat) :=
  [("http", 80), ("https", 443), ("ws", 80), ("wss", 443), ("ftp", 21)]

/-- The scheme, in lower case, and what follows its colon. -/
def splitScheme? (cs : List Char) : Option (String × List Char) :=
  let isSchemeChar (c : Char) := c.isAlphanum || c == '+' || c == '-' || c == '.'
  match cs.dropWhile isSchemeChar with
  | ':' :: rest =>
    if cs.head?.any Char.isAlpha then
      some (String.ofList ((cs.takeWhile isSchemeChar).map Char.toLower), rest)
    else none
  | _ => none

/-! ## Who asks, and whom -/

/-- Whether a character ends the part with the host. -/
def endsAuthority (c : Char) : Bool :=
  isSlash c || c == '?' || c == '#'

/-- The text before the last at sign, and the text behind it. -/
def splitUser (cs : List Char) : List Char × List Char :=
  let behind := (cs.reverse.takeWhile (· != '@')).reverse
  ((cs.take (cs.length - behind.length)).dropLast, behind)

/-- The host, up to a colon that is not in brackets, and what follows it. -/
def splitHost (isInside : Bool) : List Char → List Char × List Char
  | [] => ([], [])
  | c :: rest =>
    if c = ':' ∧ !isInside then ([], c :: rest)
    else
      let (host, port) := splitHost (c == '[' || (isInside && c != ']')) rest
      (c :: host, port)

/-- The port after a host: a number below `2 ^ 16`, or nothing. -/
def port? : List Char → Option (Option Nat)
  | [] => some none
  | _ :: ds =>
    if ds.isEmpty then some none
    else
      match Text.Decimal.number? ds with
      | some n => if n < 65536 then some (some n) else none
      | none => none

/-! ## Reading -/

/-- What is left of an address without the characters that do not count: control
    characters and spaces around it, and tabs and line ends in it. -/
def significant (s : String) : List Char :=
  let drop (cs : List Char) := cs.dropWhile fun c => c.toNat ≤ 0x20
  (drop (drop s.toList).reverse).reverse.filter fun c => c != '\t' && c != '\n' && c != '\r'

/-- A part of an address after its mark. -/
def part (others : List Char) : List Char → Option String
  | [] => none
  | _ :: text => some (String.ofList (encode others text))

/-- The address after its scheme. -/
def ofRest? (scheme : String) (usualPort : Nat) (cs : List Char) : Option Url := do
  let cs := cs.dropWhile isSlash
  let (user, hostAndPort) := splitUser (cs.takeWhile fun c => !endsAuthority c)
  let (host, port) := splitHost false hostAndPort
  let host ← Host.parse? host
  let port ← port? port
  let rest := cs.dropWhile fun c => !endsAuthority c
  let before := rest.takeWhile (· != '#')
  let password := (user.dropWhile (· != ':')).drop 1
  some {
    scheme := scheme
    user := String.ofList (encode userOthers (user.takeWhile (· != ':')))
    password :=
      if password.isEmpty then none else some (String.ofList (encode userOthers password))
    host := host
    givenPort := if port = some usualPort then none else port
    path := String.ofList (normalPath (before.takeWhile (· != '?')))
    query := part queryOthers (before.dropWhile (· != '?'))
    fragment := part fragmentOthers (rest.dropWhile (· != '#')) }

/-- The parts of an address. -/
def parse? (s : String) : Option Url := do
  let (scheme, rest) ← splitScheme? (significant s)
  let usualPort ← usualPorts.lookup scheme
  ofRest? scheme usualPort rest

/-! ## Writing -/

/-- A part with its mark, if it is there. -/
def marked (mark : String) (part : Option String) : String :=
  match part with
  | some text => mark ++ text
  | none => ""

/-- What is asked for: the path and the query. -/
def target (u : Url) : String :=
  u.path ++ marked "?" u.query

/-- Host and port. -/
def authority (u : Url) : String :=
  u.host.text ++ marked ":" (u.givenPort.map toString)

/-- Who asks, if that is said. -/
def userInfo (u : Url) : String :=
  if u.user.isEmpty && u.password.isNone then ""
  else u.user ++ marked ":" u.password ++ "@"

/-- The address as text. -/
def text (u : Url) : String :=
  u.scheme ++ "://" ++ u.userInfo ++ u.authority ++ u.target ++ marked "#" u.fragment

/-- The port, if need be the usual one. -/
def port (u : Url) : Nat :=
  u.givenPort.getD ((usualPorts.lookup u.scheme).getD 0)

/-! ## Credentials -/

/-- Who asks: a name and a password. There are none if the name is no text. -/
def credentials? (u : Url) : Option (String × Option String) :=
  let decoded (s : String) := Text.Utf8.decode? (Text.Percent.decode s.toList)
  match decoded u.user with
  | none => none
  | some user =>
    let password := u.password.bind decoded
    if user.isEmpty && password.isNone then none else some (user, password)

/-- The address that is asked for, which does not give the credentials away. -/
def bare (u : Url) : Url :=
  if u.credentials?.isSome then { u with user := "", password := none } else u

/-! ## Use -/

/-- The longest address that can be sent, in octets. -/
def longest : Nat := 65534

/-- Whether a server can be asked for what is at an address. -/
def isSendable (u : Url) : Bool :=
  (u.scheme == "http" || u.scheme == "https") && u.host.isSendable &&
    u.text.utf8ByteSize ≤ longest

end Url

end Dialogue.Http
