import Dialogue.Number.Binary64

/-!
# JSON values

A value as a program holds it, after reading: an object has each key once and
its members stand in the order of their keys. Numbers are exact: an integer of
64 bits, signed or not, or a floating-point number.

* `Members.insert` keeps the order, and the later of two values for one key;
* `Value.object` builds an object from members in any order.
-/

namespace Dialogue.Json

/-- A number: an integer between `-2^63` and `2^64 - 1`, or a floating-point
    number. -/
inductive Number where
  | int (i : Int)
  | float (x : Binary64)
  deriving DecidableEq, Repr

/-- A JSON value. -/
inductive Value where
  | null
  | bool (b : Bool)
  | number (n : Number)
  | string (s : String)
  | array (items : List Value)
  | object (members : List (String × Value))
  deriving Repr, Inhabited

mutual

/-- Equality of values is decidable. -/
def Value.decEq : (a b : Value) → Decidable (a = b)
  | .null, .null => isTrue rfl
  | .bool a, .bool b =>
    if h : a = b then isTrue (by rw [h]) else isFalse (fun h' => h (Value.bool.inj h'))
  | .number a, .number b =>
    if h : a = b then isTrue (by rw [h]) else isFalse (fun h' => h (Value.number.inj h'))
  | .string a, .string b =>
    if h : a = b then isTrue (by rw [h]) else isFalse (fun h' => h (Value.string.inj h'))
  | .array a, .array b =>
    match Value.decEqItems a b with
    | isTrue h => isTrue (by rw [h])
    | isFalse h => isFalse (fun h' => h (Value.array.inj h'))
  | .object a, .object b =>
    match Value.decEqMembers a b with
    | isTrue h => isTrue (by rw [h])
    | isFalse h => isFalse (fun h' => h (Value.object.inj h'))
  | .null, .bool _ | .null, .number _ | .null, .string _ | .null, .array _ | .null, .object _
  | .bool _, .null | .bool _, .number _ | .bool _, .string _ | .bool _, .array _
  | .bool _, .object _ | .number _, .null | .number _, .bool _ | .number _, .string _
  | .number _, .array _ | .number _, .object _ | .string _, .null | .string _, .bool _
  | .string _, .number _ | .string _, .array _ | .string _, .object _ | .array _, .null
  | .array _, .bool _ | .array _, .number _ | .array _, .string _ | .array _, .object _
  | .object _, .null | .object _, .bool _ | .object _, .number _ | .object _, .string _
  | .object _, .array _ => isFalse (fun h => nomatch h)

/-- Equality of items is decidable. -/
def Value.decEqItems : (a b : List Value) → Decidable (a = b)
  | [], [] => isTrue rfl
  | [], _ :: _ => isFalse (fun h => nomatch h)
  | _ :: _, [] => isFalse (fun h => nomatch h)
  | a :: as, b :: bs =>
    match Value.decEq a b, Value.decEqItems as bs with
    | isTrue h, isTrue h' => isTrue (by rw [h, h'])
    | isFalse h, _ => isFalse (fun h' => h (List.cons.inj h').1)
    | _, isFalse h => isFalse (fun h' => h (List.cons.inj h').2)

/-- Equality of members is decidable. -/
def Value.decEqMembers : (a b : List (String × Value)) → Decidable (a = b)
  | [], [] => isTrue rfl
  | [], _ :: _ => isFalse (fun h => nomatch h)
  | _ :: _, [] => isFalse (fun h => nomatch h)
  | (k, a) :: as, (l, b) :: bs =>
    if hk : k = l then
      match Value.decEq a b, Value.decEqMembers as bs with
      | isTrue h, isTrue h' => isTrue (by rw [hk, h, h'])
      | isFalse h, _ => isFalse (fun h' => h (Prod.mk.inj (List.cons.inj h').1).2)
      | _, isFalse h => isFalse (fun h' => h (List.cons.inj h').2)
    else isFalse (fun h => hk (Prod.mk.inj (List.cons.inj h).1).1)

end

instance : DecidableEq Value := Value.decEq

/-- Put a member in its place; a member with the same key gives way. -/
def Members.insert (key : String) (value : Value) :
    List (String × Value) → List (String × Value)
  | [] => [(key, value)]
  | (k, v) :: rest =>
    if key < k then (key, value) :: (k, v) :: rest
    else if key = k then (key, value) :: rest
    else (k, v) :: Members.insert key value rest

/-- Put members in their places, one after the other. -/
def Members.insertAll (into members : List (String × Value)) : List (String × Value) :=
  members.foldl (fun acc m => Members.insert m.1 m.2 acc) into

namespace Value

/-- The object with the given members; of two with one key the later counts. -/
def ofMembers (members : List (String × Value)) : Value :=
  .object (Members.insertAll [] members)

/-- An integer. -/
def int (i : Int) : Value :=
  .number (.int i)

/-- A natural number. -/
def nat (n : Nat) : Value :=
  .number (.int n)

/-- The value under a key, if this is an object that has it. -/
def get? (key : String) : Value → Option Value
  | .object members => members.lookup key
  | _ => none

/-- The text, if this is a string. -/
def string? : Value → Option String
  | .string s => some s
  | _ => none

/-- The value, or `null` for none. -/
def ofOption (f : α → Value) : Option α → Value
  | none => .null
  | some a => f a

end Value

end Dialogue.Json
