import Dialogue.Message.Reduce

/-!
# The transcript

Finalized messages in order, and at most one message in progress, which belongs
to the generation of the stream that writes it.

Only the message in progress is streaming. Finalizing it moves it to the end of
the list; one that nothing was written to is dropped, unless it had been taken
back from the list to be continued, so nothing once shown gets lost.
-/

namespace Dialogue

/-- The message in progress. -/
structure InProgress where
  /-- The generation that writes it. -/
  generation : Nat
  message : Message
  /-- Whether it was taken back from the finalized messages. -/
  resumed : Bool
  deriving DecidableEq, Repr

/-- Finalized messages and the one in progress. -/
structure Transcript where
  /-- The finalized messages, the oldest first. -/
  finalized : List Message := []
  inProgress : Option InProgress := none
  deriving DecidableEq, Repr

namespace Transcript

/-- The message in progress. -/
def current? (t : Transcript) : Option Message :=
  t.inProgress.map (·.message)

/-- Every message, the one in progress last. -/
def messages (t : Transcript) : List Message :=
  t.finalized ++ t.current?.toList

/-- Whether there is no message. -/
def isEmpty (t : Transcript) : Bool :=
  t.finalized.isEmpty && t.inProgress.isNone

/-- How many messages are streaming. -/
def streamingCount (t : Transcript) : Nat :=
  t.messages.countP (·.streaming)

/-- Add a finalized message. -/
def push (t : Transcript) (m : Message) : Transcript :=
  { t with finalized := t.finalized ++ [m.settled] }

/-- The message in progress, if it belongs to a generation. -/
def currentOf? (t : Transcript) (generation : Nat) : Option Message :=
  match t.inProgress with
  | some p => if p.generation = generation then some p.message else none
  | none => none

/-- Replace the message in progress. -/
def setCurrent (t : Transcript) (m : Message) : Transcript :=
  { t with inProgress := t.inProgress.map fun p => { p with message := m } }

/-- The message in progress as it is finalized: no longer streaming, and with the
    usage given unless that is empty. -/
def InProgress.settle (p : InProgress) (usage : Option Usage) : Message :=
  { p.message with
    streaming := false
    usage := usage.filter (fun u => !u.isEmpty) <|> p.message.usage }

/-- Finalize the message in progress; the message is returned unless it is
    dropped. -/
def finalize (t : Transcript) (usage : Option Usage) : Option Message × Transcript :=
  match t.inProgress with
  | none => (none, t)
  | some p =>
    let m := InProgress.settle p usage
    if m.hasContent || p.resumed then
      (some m, { finalized := t.finalized ++ [m], inProgress := none })
    else (none, { t with inProgress := none })

/-- Make sure that the message in progress belongs to a generation: one of
    another generation is finalized, and if there is none an empty one begins. -/
def ensureCurrent (t : Transcript) (generation : Nat) (ids : Ids) (now : Int) :
    Message × Ids × Transcript :=
  let t := if (t.currentOf? generation).isSome then t else (t.finalize none).2
  match t.inProgress with
  | some p => (p.message, ids, t)
  | none =>
    let m := Message.beginAssistant ids.next now
    (m, ids.advance, { t with inProgress := some ⟨generation, m, false⟩ })

/-- Take back the last finalized message, if it is from the assistant. -/
def takeLastAssistant (t : Transcript) : Option Message × Transcript :=
  match t.finalized.getLast? with
  | some m =>
    if m.isAssistant then (some m, { t with finalized := t.finalized.dropLast }) else (none, t)
  | none => (none, t)

/-- Continue a message that was taken back, for a generation. -/
def resume (t : Transcript) (generation : Nat) (m : Message) : Transcript :=
  { (t.finalize none).2 with
    inProgress := some ⟨generation, { m with streaming := true }, true⟩ }

/-- Fill an empty transcript with stored messages; another one is left alone. -/
def hydrate (t : Transcript) (messages : List Message) : Bool × Transcript :=
  if t.isEmpty then (true, { finalized := messages.map Message.settled }) else (false, t)

end Transcript

end Dialogue
