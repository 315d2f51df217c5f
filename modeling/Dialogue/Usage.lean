import Dialogue.Number.Count

/-!
# Token and time accounting

What a model call cost: token counters, the times to the first token and to the
whole response, and the time spent generating.

* `Usage.merge` folds one report of a running turn into its account: counters
  add, a time that the report carries replaces the known one, and generating
  time grows by what a response time exceeds the known first-token time.
* `Usage.combine` adds two finished accounts, the later one's times winning.
  Counters stop at the largest count, so both are total; `combine` is
  associative and the empty account is neutral.
-/

namespace Dialogue

/-- An account of tokens and times, the times in milliseconds. -/
structure Usage where
  /-- Tokens of the prompt. -/
  prompt : Count := 0
  /-- Tokens of the answer. -/
  completion : Count := 0
  /-- Tokens in all, as reported. -/
  total : Count := 0
  /-- Tokens of the prompt that were cached. -/
  cached : Count := 0
  /-- The time to the first token, if known. -/
  firstToken : Option Count := none
  /-- The time to the whole response, if known. -/
  response : Option Count := none
  /-- The time spent generating. -/
  generation : Count := 0
  deriving DecidableEq, Repr, Inhabited

/-- Which model call a report is about. Only the main one is accounted. -/
inductive UsageSource where
  | main
  | turnCheck
  | other
  deriving DecidableEq, Repr

namespace Usage

/-- The account of nothing. -/
def empty : Usage := {}

/-- Whether nothing is accounted. -/
def isEmpty (u : Usage) : Bool :=
  u == empty

/-- A report of counters alone. -/
def counters (prompt completion total cached : Count) : Usage :=
  { prompt, completion, total, cached }

/-- A report of the time to the first token alone. -/
def ofFirstToken (time : Count) : Usage :=
  { firstToken := some time }

/-- A report of the time to the whole response alone. -/
def ofResponse (time : Count) : Usage :=
  { response := some time }

/-- The generating time that a report adds, given the first-token time known
    with it: what its response time exceeds that time. -/
def generated (delta : Usage) (firstToken : Option Count) : Count :=
  match delta.response, firstToken with
  | some response, some first => response.above first
  | _, _ => 0

/-- Fold a report into the account of a running turn. -/
def merge (current delta : Usage) : Usage :=
  let firstToken := delta.firstToken <|> current.firstToken
  { prompt := current.prompt + delta.prompt
    completion := current.completion + delta.completion
    total := current.total + delta.total
    cached := current.cached + delta.cached
    firstToken
    response := delta.response <|> current.response
    generation := current.generation + delta.generated firstToken }

/-- Add a later account to an earlier one. -/
def combine (earlier later : Usage) : Usage :=
  { prompt := earlier.prompt + later.prompt
    completion := earlier.completion + later.completion
    total := earlier.total + later.total
    cached := earlier.cached + later.cached
    firstToken := later.firstToken <|> earlier.firstToken
    response := later.response <|> earlier.response
    generation := earlier.generation + later.generation }

/-- The account of reports folded in order. -/
def mergeAll (deltas : List Usage) : Usage :=
  deltas.foldl merge empty

/-- The sum of accounts, the earliest first. -/
def combineAll (accounts : List Usage) : Usage :=
  accounts.foldl combine empty

end Usage

end Dialogue
