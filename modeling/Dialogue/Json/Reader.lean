import Dialogue.Json.Tree

/-!
# Records from JSON

How a tree is read as a record with declared fields.

A field may have several spellings. `Tree.fields?` finds the field values of a
record and refuses one that gives a field twice, under whatever spellings; a
member that belongs to no field is skipped unread. A record may also be given as
the array of its fields in the order of declaration, with missing ones at the
end. What a missing field or a `null` means is then said field by field, by
`required?`, `withDefault?` and `optional?`.

A tagged record names its variant in one member and keeps the fields of the
variant beside it (`Tree.tagged?`). To find the tag, all of it is read first, so
nothing in it may be unreadable. Inside, where `Mode.buffered` holds, the name of a
plain choice may carry an empty object as well as a `null` (`Tree.choice?`).
-/

namespace Dialogue.Json

/-- Whether a tree is read on the way through the text, or after a tagged record
    around it was read whole. -/
inductive Mode where
  | direct
  | buffered
  deriving DecidableEq, Repr

namespace Tree

/-! ## Plain values -/

/-- A text. -/
def string? : Tree → Option String
  | .string s => some s
  | _ => none

/-- A truth value. -/
def bool? : Tree → Option Bool
  | .bool b => some b
  | _ => none

/-- An integer within bounds. -/
def intBetween? (low high : Int) : Tree → Option Int
  | .number (.int i) => if low ≤ i ∧ i ≤ high then some i else none
  | _ => none

/-- A signed integer of 64 bits. -/
def int64? : Tree → Option Int :=
  intBetween? (-9223372036854775808) 9223372036854775807

/-- An unsigned integer of 64 bits. -/
def nat64? (t : Tree) : Option Nat :=
  (intBetween? 0 18446744073709551615 t).map Int.toNat

/-- A list of what `read?` reads. -/
def list? (read? : Tree → Option α) : Tree → Option (List α)
  | .array items => items.mapM read?
  | _ => none

/-- `null` for nothing, or what `read?` reads. -/
def nullable? (read? : Tree → Option α) : Tree → Option (Option α)
  | .null => some none
  | t => (read? t).map some

/-- The name of a choice: a string, or an object that gives the name `null`. -/
def choice? (mode : Mode) : Tree → Option String
  | .string s => some s
  | .object [(some s, .null)] => some s
  | .object [(some s, .object [])] => if mode = .buffered then some s else none
  | _ => none

/-! ## Fields -/

/-- A field that must be there. -/
def required? (read? : Tree → Option α) (field : Option Tree) : Option α :=
  field.bind read?

/-- A field with a default. -/
def withDefault? (default : α) (read? : Tree → Option α) : Option Tree → Option α
  | none => some default
  | some t => read? t

/-- A field that may be missing or `null`. -/
def optional? (read? : Tree → Option α) : Option Tree → Option (Option α)
  | none => some none
  | some t => nullable? read? t

/-- The position of the field with a given spelling. -/
def fieldIndex? (key : String) (spellings : List (List String)) : Option Nat :=
  spellings.findIdx? fun names => names.contains key

/-- Put the value of each member into its field, unless the field has one. -/
def fillFields? (spellings : List (List String)) :
    List (Option Tree) → List (Option String × Tree) → Option (List (Option Tree))
  | found, [] => some found
  | _, (none, _) :: _ => none
  | found, (some key, t) :: rest =>
    match fieldIndex? key spellings with
    | none => fillFields? spellings found rest
    | some i =>
      match found[i]? with
      | some none => fillFields? spellings (found.set i (some t)) rest
      | _ => none

/-- The value of each field, in the order of declaration. -/
def fields? (spellings : List (List String)) : Tree → Option (List (Option Tree))
  | .object members => fillFields? spellings (spellings.map fun _ => none) members
  | .array items =>
    if items.length ≤ spellings.length then
      some (items.map some ++ List.replicate (spellings.length - items.length) none)
    else none
  | _ => none

/-! ## Tagged records -/

/-- The members other than the tag, and the values under the tag. -/
def splitTag (tag : String) (members : List (Option String × Tree)) :
    List Tree × List (Option String × Tree) :=
  ((members.filter (fun m => m.1 == some tag)).map (·.2),
    members.filter (fun m => !(m.1 == some tag)))

/-- The name of the variant and the rest of a tagged record. In an array the name
    comes first. -/
def tagged? (tag : String) (t : Tree) : Option (String × Tree) := do
  let _ ← t.value?
  match t with
  | .object members =>
    match splitTag tag members with
    | ([.string name], rest) => some (name, .object rest)
    | _ => none
  | .array (.string name :: rest) => some (name, .array rest)
  | _ => none

/-- A variant without fields: other members do not matter, other items do. -/
def noFields? : Tree → Option Unit
  | .object _ => some ()
  | .array [] => some ()
  | _ => none

end Tree

end Dialogue.Json
