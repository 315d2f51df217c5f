import Dialogue.Session.Command
import Dialogue.Terminal.Account
import Dialogue.Terminal.Instruction

/-!
# Instructions carried out

What an instruction does to a session, and what is printed in answer
(`execute`). What the session tells its watchers is printed apart, by a
`Renderer`.
-/

namespace Dialogue.Terminal

/-- A line of output. -/
def printed (text : String) : String :=
  text ++ "\n"

/-- Lines of output. -/
def printedAll (lines : List String) : String :=
  String.join (lines.map printed)

/-! ## Answers -/

/-- What is printed for what a command was answered with; an instruction prints
    nothing unless it says so. -/
def replyText (i : Instruction) : Reply → String
  | .submitted (.queued entry) => printed ("[queued " ++ entry.id ++ "]")
  | .flag false => if i = .cancel then printed "(nothing to cancel)" else ""
  | .progress p =>
    printed ("[" ++ (if p.decision.isApprove then "approving " else "denying ") ++
      toString p.total ++ " calls]")
  | .entry entry => printed ("[dropped " ++ entry.id ++ "]")
  | .snapshot s =>
    if i = .queue then
      if s.queue.isEmpty then printed "(queue empty)"
      else printedAll (s.queue.map fun entry => entry.id ++ "  " ++ entry.content)
    else printed (usageText s.turnUsage s.sessionUsage)
  | _ => ""

/-- The command that an instruction gives to the session, if it gives one. -/
def Instruction.command? : Instruction → Option Command
  | .submit content => some (.submit content)
  | .cancel => some .cancel
  | .approve (some callId) => some (.decideSingle callId true none)
  | .approve none => some (.decideBulk .approve)
  | .deny callId reason => some (.decideSingle callId false reason)
  | .denyAll => some (.decideBulk .deny)
  | .queue | .usage => some .snapshot
  | .now id => some (.submitNow id)
  | .drop id => some (.removeQueued id)
  | .help | .quit => none

/-- What is printed for an instruction that asks nothing of the session. -/
def Instruction.answer : Instruction → String
  | .help => printed helpText
  | _ => ""

/-- Carry out an instruction: what is printed, or why the session refused. -/
def execute (s : Service) (i : Instruction) : Except Error String × Service :=
  match i.command? with
  | none => (.ok i.answer, s)
  | some c =>
    let (reply, s) := s.perform c
    (reply.map (replyText i), s)

/-! ## History -/

/-- Who speaks. -/
def speaker (m : Message) : String :=
  if m.isAssistant then "assistant" else "you"

/-- The lines of a message: what was said, and the calls that were made. -/
def historyLines (m : Message) : List String :=
  (speaker m ++ "> " ++ m.content) ::
    m.executions.map fun e =>
      "  [tool] " ++ e.displayTitle ++ " (" ++ e.callId ++ ") " ++ e.status.name

/-- The messages of a session so far. -/
def historyText (messages : List Message) : String :=
  printedAll (messages.flatMap historyLines)

end Dialogue.Terminal
