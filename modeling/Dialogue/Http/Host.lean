import Dialogue.Http.Host.Name
import Dialogue.Text.Percent

/-!
# Hosts

Who an address is about: a name, or an address in numbers. `Host.parse?` reads all the
ways in which a host may be written, `Host.text` writes it in the usual one.
-/

namespace Dialogue.Http

/-- A host. -/
inductive Host where
  /-- A name in plain small letters. -/
  | name (text : String)
  /-- An address of four octets. -/
  | octets (number : Nat)
  /-- An address of eight pieces. -/
  | pieces (numbers : List Nat)
  deriving DecidableEq, Repr

namespace Host

/-- A host as it is looked up. -/
def bareText : Host → String
  | .name s => s
  | .octets n => octetsText n
  | .pieces ns => piecesText ns

/-- A host as it stands in an address. -/
def text : Host → String
  | .pieces ns => "[" ++ piecesText ns ++ "]"
  | h => h.bareText

/-- The host of characters that are not in brackets. -/
def ofPlain? (cs : List Char) : Option Host := do
  let s ← Text.Utf8.decode? (Text.Percent.decode cs)
  let name ← plainName? s.toList
  if name.isEmpty then none
  else if endsInNumber name then (octets? name).map .octets
  else some (.name (String.ofList name))

/-- The host that characters stand for. -/
def parse? : List Char → Option Host
  | '[' :: cs =>
    if cs.getLast? = some ']' then (pieceAddress? cs.dropLast).map .pieces else none
  | cs => ofPlain? cs

/-- Whether a character of a name may be sent as it is. -/
def isSendableChar (c : Char) : Bool :=
  c.isAlphanum ||
    ['!', '$', '&', '\'', '(', ')', '*', '+', ',', '-', '.', ';', '=', '_', '~'].contains c

/-- Whether a host can be asked. -/
def isSendable : Host → Bool
  | .name s => s.toList.all isSendableChar
  | _ => true

end Host

end Dialogue.Http
