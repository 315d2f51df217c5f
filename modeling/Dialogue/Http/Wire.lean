import Dialogue.Http.Chunks
import Dialogue.Http.Request
import Dialogue.Json.Printer

/-!
# Requests and responses on the wire

A request as octets, and a response as it comes in octet by octet: first its head,
then its body, whose end is told by a length, by chunks, or by the end of the
connection. `Reading.step` takes in one octet, so it does not matter how the
response was cut into pieces.
-/

namespace Dialogue.Http

/-! ## Requests -/

/-- A line of a head. -/
def headLine (s : String) : List UInt8 :=
  Text.Utf8.encode (s ++ "\r\n")

/-- A request as octets. The connection is for this request alone. -/
def octetsOf (r : HttpRequest) : List UInt8 :=
  let body := (r.body.map fun v => Text.Utf8.encode v.render).getD []
  let authority := (r.url?.map (·.authority)).getD ""
  headLine (r.method.name ++ " " ++ r.target ++ " HTTP/1.1") ++
    headLine ("host: " ++ authority) ++
    r.headers.flatMap (fun (name, value) => headLine (name ++ ": " ++ value)) ++
    (if r.body.isSome then headLine ("content-length: " ++ toString body.length) else []) ++
    headLine "connection: close" ++ headLine "" ++ body

/-! ## Reading -/

/-- How far a response has been read. -/
inductive Reading where
  /-- The head, its octets newest first. -/
  | head (read : List UInt8)
  /-- The body, of which so many octets are to come, if this is known. -/
  | body (status : Nat) (left : Option Nat)
  | chunks (status : Nat) (chunks : Chunks)
  /-- All of it is read. -/
  | complete (status : Nat)
  /-- It is no response, or none that goes on. -/
  | broken (status : Option Nat)
  deriving DecidableEq, Repr

namespace Reading

/-- The status, once the head is read. -/
def status? : Reading → Option Nat
  | .body status _ | .chunks status _ | .complete status => some status
  | .head _ => none
  | .broken status => status

/-- What comes after a head: another one after that of a passing response. -/
def afterHead (h : Head) : Reading :=
  if Head.isPassing h.status then .head []
  else
    match h.framing with
    | .length 0 => .complete h.status
    | .length n => .body h.status (some n)
    | .chunked => .chunks h.status {}
    | .untilClose => .body h.status none

/-- Whether octets, newest first, end a head. -/
def endsHead : List UInt8 → Bool
  | 10 :: 13 :: 10 :: _ => true
  | 10 :: 10 :: _ => true
  | _ => false

/-- Take in an octet of a head, given those before it, newest first. Line ends before a
    head do not count. -/
def stepHead (read : List UInt8) (b : UInt8) : Reading :=
  match read, b with
  | [], 10 | [13], 10 => .head []
  | [13], _ => .broken none
  | _, _ =>
    if endsHead (b :: read) then
      match Head.parse? (b :: read).reverse with
      | some h => afterHead h
      | none => .broken none
    else .head (b :: read)

/-- Take in an octet; an octet of the body may come out. -/
def step (r : Reading) (b : UInt8) : Reading × Option UInt8 :=
  match r with
  | .head read => (stepHead read b, none)
  | .body _ none => (r, some b)
  | .body status (some n) =>
    (if n ≤ 1 then .complete status else .body status (some (n - 1)), some b)
  | .chunks status c =>
    match c.step b with
    | .more c => (.chunks status c, none)
    | .octet c => (.chunks status c, some b)
    | .over => (.complete status, none)
    | .broken => (.broken (some status), none)
  | .complete _ | .broken _ => (r, none)

/-- Take in octets; those of the body come out in order. -/
def feed (r : Reading) : List UInt8 → Reading × List UInt8
  | [] => (r, [])
  | b :: bs =>
    let (r₁, out) := r.step b
    let (r₂, more) := r₁.feed bs
    (r₂, out.toList ++ more)

/-- Feeding a piece and then another is feeding both at once. -/
theorem feed_append (r : Reading) (a b : List UInt8) :
    r.feed (a ++ b) =
      (((r.feed a).1.feed b).1, (r.feed a).2 ++ ((r.feed a).1.feed b).2) := by
  induction a generalizing r with
  | nil => simp [feed]
  | cons x a ih => simp [feed, ih]

/-- Whether nothing more can come of a response. -/
def isOver : Reading → Bool
  | .complete _ | .broken _ => true
  | _ => false

/-- Whether a response is whole when the connection ends here. -/
def mayClose : Reading → Bool
  | .complete _ | .body _ none => true
  | _ => false

end Reading

end Dialogue.Http
