import Dialogue.Usage
import Dialogue.Json.Reader

/-!
# Usage in JSON

How an account is written and read. Read, a field may have its written name, the
name with underscores or, for times, a short one; a counter that is missing or
`null` is zero. The generating time is derived, so it is written but never read.
-/

namespace Dialogue

open Json

namespace Count

/-- A count as a number. -/
def toJson (c : Count) : Value :=
  .nat c.val

/-- A count from a number. -/
def ofTree? (t : Tree) : Option Count :=
  t.nat64?.map Count.ofNat

end Count

namespace Usage

/-- The fields that are read, with their spellings. -/
def spellings : List (List String) :=
  [["promptTokens", "prompt_tokens"], ["completionTokens", "completion_tokens"],
    ["totalTokens", "total_tokens"], ["cachedTokens", "cached_tokens"],
    ["timeToFirstToken", "time_to_first_token", "ttft_ms"],
    ["timeToResponse", "time_to_response", "ttr_ms"]]

/-- A counter; nothing is zero. -/
def counter? (field : Option Tree) : Option Count :=
  (Tree.optional? Count.ofTree? field).map (·.getD 0)

/-- An account from a record. -/
def ofTree? (t : Tree) : Option Usage := do
  let [prompt, completion, total, cached, first, response] ← t.fields? spellings | none
  let prompt ← counter? prompt
  let completion ← counter? completion
  let total ← counter? total
  let cached ← counter? cached
  let firstToken ← Tree.optional? Count.ofTree? first
  let response ← Tree.optional? Count.ofTree? response
  some { prompt, completion, total, cached, firstToken, response }

/-- An account as a record. -/
def toJson (u : Usage) : Value :=
  .ofMembers
    [("promptTokens", u.prompt.toJson), ("completionTokens", u.completion.toJson),
      ("totalTokens", u.total.toJson), ("cachedTokens", u.cached.toJson),
      ("timeToFirstToken", .ofOption Count.toJson u.firstToken),
      ("timeToResponse", .ofOption Count.toJson u.response),
      ("totalGenerationMs", u.generation.toJson)]

end Usage

namespace UsageSource

/-- The name of a source. -/
def name : UsageSource → String
  | .main => "main"
  | .turnCheck => "turn_check"
  | .other => "other"

/-- The source with a name; an unknown name is another source. -/
def ofName (s : String) : UsageSource :=
  if s = "main" then .main else if s = "turn_check" then .turnCheck else .other

/-- A source from its name. -/
def ofTree? (t : Tree) : Option UsageSource :=
  (t.choice? .direct).map ofName

end UsageSource

end Dialogue
