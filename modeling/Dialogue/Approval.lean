import Dialogue.Message

/-!
# Approvals

Calls that wait for a decision, and decisions on many of them at once.

* `approvable` finds the calls of a message that can be decided, one entry per
  call: its last snapshot, in the place where the call first appears.
* `Coordinator` works through a bulk decision one call at a time. While it
  runs, the calls completed, those still waiting and the one under way add up
  to the total.
-/

namespace Dialogue

/-- A decision on a call. -/
inductive Decision where
  | approve
  | deny
  deriving DecidableEq, Repr

namespace Decision

/-- The decision to approve, or not to. -/
def ofApprove (approve : Bool) : Decision :=
  if approve then .approve else .deny

/-- Whether the decision is to approve. -/
def isApprove : Decision → Bool
  | .approve => true
  | .deny => false

end Decision

/-- How far a bulk decision has come. -/
structure Progress where
  completed : Nat
  total : Nat
  decision : Decision
  deriving DecidableEq, Repr

/-- Whether every call has been decided. -/
def Progress.isDone (p : Progress) : Bool :=
  p.total ≤ p.completed

/-! ## The calls that can be decided -/

/-- Note a snapshot of a call: in the place of an earlier one, or at the end. -/
def noteSnapshot (known : List ToolExecution) (e : ToolExecution) : List ToolExecution :=
  if known.any (·.callId == e.callId) then
    known.map fun k => if k.callId == e.callId then e else k
  else known ++ [e]

/-- The last snapshot of each call, in the order of first appearance. -/
def lastSnapshots (executions : List ToolExecution) : List ToolExecution :=
  executions.foldl noteSnapshot []

/-- The message whose calls can be decided: the one being written, else the last
    one from the assistant. -/
def approvalSource (current : Option Message) (finalized : List Message) : Option Message :=
  current <|> finalized.reverse.find? Message.isAssistant

/-- The calls that can be decided. -/
def approvable (current : Option Message) (finalized : List Message) : List ToolExecution :=
  match approvalSource current finalized with
  | none => []
  | some m => (lastSnapshots m.executions).filter ToolExecution.isApprovable

/-! ## Bulk decisions -/

/-- The calls a bulk decision has still to start, and its progress if one runs. -/
structure Coordinator where
  waiting : List String := []
  progress : Option Progress := none
  deriving DecidableEq, Repr

/-- What follows when the call under way is done. -/
inductive BulkStep where
  /-- The next call is to be started. -/
  | next (callId : String) (decision : Decision) (progress : Progress)
  /-- That was the last call. -/
  | finished (progress : Progress)
  /-- No bulk decision is running. -/
  | idle
  deriving DecidableEq, Repr

namespace Coordinator

/-- Whether a bulk decision runs. -/
def isDraining (c : Coordinator) : Bool :=
  c.progress.isSome

/-- Begin a bulk decision; the first call is to be started. Without calls there
    is nothing to begin. -/
def begin (c : Coordinator) (decision : Decision) (callIds : List String) :
    Option (String × Progress) × Coordinator :=
  match callIds with
  | [] => (none, { c with waiting := [] })
  | first :: rest =>
    let progress := ⟨0, rest.length + 1, decision⟩
    (some (first, progress), ⟨rest, some progress⟩)

/-- The call under way is done. -/
def complete (c : Coordinator) : BulkStep × Coordinator :=
  match c.progress with
  | none => (.idle, c)
  | some p =>
    let p := { p with completed := p.completed + 1 }
    match c.waiting with
    | next :: rest => (.next next p.decision p, ⟨rest, some p⟩)
    | [] => (.finished p, { c with progress := none })

/-- Give up a bulk decision; its progress is returned. -/
def abort (c : Coordinator) : Option Progress × Coordinator :=
  (c.progress, {})

end Coordinator

end Dialogue
