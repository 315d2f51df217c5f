import Dialogue.Queue
import Dialogue.Json.Reader

/-!
# Queued input in JSON

How queued input is written and read.
-/

namespace Dialogue.QueuedInput

open Json

/-- Queued input from a record. -/
def ofTree? (t : Tree) : Option QueuedInput := do
  let [id, content, enqueuedAt] ← t.fields? [["id"], ["content"], ["enqueuedAtMs"]] | none
  let id ← Tree.required? Tree.string? id
  let content ← Tree.required? Tree.string? content
  let enqueuedAt ← Tree.required? Tree.int64? enqueuedAt
  some { id, content, enqueuedAt }

/-- Queued input as a record. -/
def toJson (q : QueuedInput) : Value :=
  .ofMembers
    [("id", .string q.id), ("content", .string q.content), ("enqueuedAtMs", .int q.enqueuedAt)]

end Dialogue.QueuedInput
