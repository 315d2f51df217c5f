/-!
# Fresh identifiers

A supply of identifiers, numbered. Which text an identifier has is up to whoever
makes the supply; that two of them never agree is what it means for them to be
fresh (`Ids.IsFresh`).
-/

namespace Dialogue

/-- A numbered supply of identifiers. -/
structure Ids where
  /-- The identifier with a number. -/
  name : Nat → String
  /-- How many have been handed out. -/
  used : Nat := 0

namespace Ids

/-- The next identifier. -/
def next (ids : Ids) : String :=
  ids.name ids.used

/-- The supply after the next identifier was handed out. -/
def advance (ids : Ids) : Ids :=
  { ids with used := ids.used + 1 }

/-- No two numbers have the same identifier. -/
def IsFresh (ids : Ids) : Prop :=
  ∀ i j, ids.name i = ids.name j → i = j

end Ids

end Dialogue
