import Dialogue.Approval
import Dialogue.Json.Reader

/-!
# Approvals in JSON

How decisions and their progress are written and read.
-/

namespace Dialogue

open Json

namespace Decision

/-- The name of a decision. -/
def name : Decision → String
  | .approve => "approve"
  | .deny => "deny"

/-- The decision with a name. -/
def ofName? (s : String) : Option Decision :=
  if s = "approve" then some .approve else if s = "deny" then some .deny else none

/-- A decision from its name. -/
def ofTree? (t : Tree) : Option Decision :=
  (t.choice? .direct).bind ofName?

/-- A decision as its name. -/
def toJson (d : Decision) : Value :=
  .string d.name

end Decision

namespace Progress

/-- Progress from a record. -/
def ofTree? (t : Tree) : Option Progress := do
  let [completed, total, decision] ← t.fields? [["completed"], ["total"], ["decision"]] | none
  let completed ← Tree.required? Tree.nat64? completed
  let total ← Tree.required? Tree.nat64? total
  let decision ← Tree.required? Decision.ofTree? decision
  some { completed, total, decision }

/-- Progress as a record. -/
def toJson (p : Progress) : Value :=
  .ofMembers
    [("completed", .nat p.completed), ("total", .nat p.total), ("decision", p.decision.toJson)]

end Progress

end Dialogue
