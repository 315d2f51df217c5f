import Dialogue.Keyed

/-!
# TOML tables

What a TOML document holds, and who may add to a table. A table that a header
opened is opened once; one that a header or a dotted key only passed through may
still be opened, or passed through again; one written in braces is complete.

* `Table.define` adds an entry under a dotted key;
* `Table.open?` and `Table.openElement?` are what the two kinds of header do;
* `Table.within` changes the table that a header's keys lead to.

Of numbers with a fraction and of dates only the form matters here, so they carry
no value.
-/

namespace Dialogue.Toml

/-- How a table came about. -/
inductive Origin where
  /-- A header names it. -/
  | header
  /-- A header passes through it. -/
  | passed
  /-- A dotted key passes through it. -/
  | dotted
  /-- It is written in braces. -/
  | braces
  deriving DecidableEq, Repr

/-- Whether a dotted key may lead into the table. -/
def Origin.isOpen : Origin → Bool
  | .passed | .dotted => true
  | .header | .braces => false

/-- What stands under a key. -/
inductive Item where
  | string (s : String)
  | integer (i : Int)
  | float
  | bool (b : Bool)
  | moment
  | array (items : List Item)
  | table (origin : Origin) (entries : List (String × Item))
  /-- The elements that headers in double brackets add. -/
  | tables (elements : List (List (String × Item)))
  deriving Repr, Inhabited

/-- The entries of a table. -/
abbrev Table := List (String × Item)

namespace Table

/-- Put an entry under a dotted key. An entry under a plain key belongs to the
    table itself, one under a longer key to a table that dotted keys made;
    `dotted` says which this is, and `below` whether a longer key led here. -/
def define (key : String) (item : Item) (dotted below : Bool) : List String → Table → Option Table
  | [], t =>
    if dotted = below ∧ (t.lookup key).isNone then some (Keyed.put key item t) else none
  | k :: path, t =>
    match t.lookup k with
    | none =>
      (define key item true true path []).map fun inner => Keyed.put k (.table .dotted inner) t
    | some (.table origin inner) =>
      if origin.isOpen then
        (define key item (origin = .dotted) true path inner).map fun inner =>
          Keyed.put k (.table origin inner) t
      else none
    | some (.tables elements) =>
      elements.getLast?.bind fun last =>
        (define key item false true path last).map fun last =>
          Keyed.put k (.tables (elements.dropLast ++ [last])) t
    | some _ => none

/-- Change the table that keys lead to; tables that are not there yet are made on
    the way, and of several elements the last is meant. -/
def within (change : Table → Option Table) : List String → Table → Option Table
  | [], t => change t
  | k :: path, t =>
    match t.lookup k with
    | none => (within change path []).map fun inner => Keyed.put k (.table .passed inner) t
    | some (.table origin inner) =>
      if origin = .braces then none
      else (within change path inner).map fun inner => Keyed.put k (.table origin inner) t
    | some (.tables elements) =>
      elements.getLast?.bind fun last =>
        (within change path last).map fun last =>
          Keyed.put k (.tables (elements.dropLast ++ [last])) t
    | some _ => none

/-- Open the table under a key, which no header has opened before. -/
def open? (key : String) (t : Table) : Option Table :=
  match t.lookup key with
  | none => some (Keyed.put key (.table .header []) t)
  | some (.table .passed inner) => some (Keyed.put key (.table .header inner) t)
  | some _ => none

/-- Add an element under a key, which holds elements only. -/
def openElement? (key : String) (t : Table) : Option Table :=
  match t.lookup key with
  | none => some (Keyed.put key (.tables [[]]) t)
  | some (.tables elements) => some (Keyed.put key (.tables (elements ++ [[]])) t)
  | some _ => none

end Table

end Dialogue.Toml
