import Dialogue.Proofs.Message.Outline
import Dialogue.Proofs.Session.Inscribing

/-!
# What events add to a message

A token is a piece of text for the message in progress, and an event about calls begins those
that the message does not have yet (`Session.written`). An event of the stream adds just that to
the message in progress, which begins if there is none (`Session.Wrote`).

The main statement is that this is so for every event that is not terminal (`wrote_apply`).
-/

namespace Dialogue.Session

open Written Transcript

variable {s s' : Session} {ws : List Written}

/-- The text of the message in progress, and none if there is no message. -/
def textInProgress (s : Session) : String :=
  (s.transcript.current?.map (·.content)).getD ""

/-- The calls of the message in progress. -/
def callsInProgress (s : Session) : List String :=
  s.transcript.current?.toList.flatMap Message.callIds

/-- The calls that have begun from one session to another. -/
def begun (s s' : Session) : List Written :=
  (s'.callsInProgress.drop s.callsInProgress.length).map .call

/-- What an event writes to the message in progress. -/
def written (s : Session) : TurnEvent → List Written
  | .token words => [.text words]
  | .toolsPending us => s.begun (s.applyPending us)
  | .tool kind u => s.begun (s.applyTool kind u)
  | _ => []

/-- From one session to another something was written to the message under way. It may be
    nothing, and then no message says anything else than before. -/
inductive Wrote (s : Session) (ws : List Written) (s' : Session) : Prop
  | nothing : spelled ws = [] → s'.transcript.finalized = s.transcript.finalized →
      s'.transcript.current?.map Message.unmarked = s.transcript.current?.map Message.unmarked →
      Wrote s ws s'
  | gains {m : Message} : s.underWay.message.Gains ws m →
      s'.transcript = { s.transcript with inProgress := some { s.underWay with message := m } } →
      Wrote s ws s'

theorem wrote_nothing (hw : spelled ws = []) (hx : s'.transcript = s.transcript) : s.Wrote ws s' :=
  .nothing hw (by rw [hx]) (by rw [hx])

/-! ## The message under way -/

theorem textInProgress_eq (s : Session) : s.textInProgress = s.underWay.message.content := by
  rw [textInProgress, underWay, current?]
  cases s.transcript.inProgress <;> rfl

theorem callsInProgress_eq (s : Session) : s.callsInProgress = s.underWay.message.callIds := by
  rw [callsInProgress, underWay, current?]
  cases s.transcript.inProgress with
  | none => rfl
  | some p => exact List.append_nil _

/-! ## Events -/

theorem wrote_begun_of_eq (hx : s'.transcript = s.transcript) : s.Wrote (s.begun s') s' := by
  refine wrote_nothing ?_ hx
  rw [begun, callsInProgress, callsInProgress, hx, List.drop_length]
  rfl

/-- The calls that have begun are those that the message has gained. -/
theorem wrote_begun {m : Message}
    (hx : s'.transcript = { s.transcript with inProgress := some { s.underWay with message := m } })
    (hg : ∃ callIds : List String, s.underWay.message.Gains (callIds.map .call) m) :
    s.Wrote (s.begun s') s' := by
  obtain ⟨callIds, hg⟩ := hg
  have hm : s'.underWay.message = m := by rw [underWay, hx, Option.getD_some]
  have hb : s.begun s' = callIds.map .call := by
    rw [begun, callsInProgress_eq, callsInProgress_eq, hm, hg.callIds, calls_calls, List.drop_left]
  rw [hb]
  exact .gains hg hx

/-- What an event does without writing says nothing. -/
theorem wrote_noted (hw : spelled ws = []) {usage : Option Usage}
    (hx : s'.transcript = s.transcript.noted usage) : s.Wrote ws s' := by
  refine .nothing hw (by rw [hx]; rfl) ?_
  rw [hx, current?, current?, noted, Option.map_map, Option.map_map, Option.map_map]
  rfl

/-- Every event that is not terminal adds to the message in progress what it writes. -/
theorem wrote_apply (hb : s.transcript.BelongsTo s.generation) {e : TurnEvent}
    (he : e.isTerminal = false) : s.Wrote (s.written e) (s.apply e) := by
  cases inscribes_apply hb he with
  | nothing hw hx =>
    cases e with
    | token words =>
      -- A text that makes no difference is empty.
      have hc := congrArg (·.content) (hw _ rfl s.ids)
      have hn : s.underWay.message.content ++ words = s.underWay.message.content ++ "" :=
        ((Message.content_appendText _ _ words).symm.trans hc).trans String.append_empty.symm
      rw [String.append_right_inj] at hn
      exact wrote_nothing (by rw [hn]; rfl) hx
    | toolsPending us | tool kind u => exact wrote_begun_of_eq hx
    | completed time | error message => exact Bool.noConfusion he
    | _ => exact wrote_nothing rfl hx
  | notes hw hx =>
    cases e with
    | token words | toolsPending us | tool kind u => exact nomatch hw
    | _ => exact wrote_noted rfl hx
  | @writes w ids hw hx =>
    cases e with
    | token words =>
      obtain rfl := Option.some.inj hw
      exact .gains (Message.gains_appendText _ ids words) hx
    | toolsPending us | tool kind u =>
      obtain rfl := Option.some.inj hw
      exact wrote_begun hx (Message.gains_write _ ids nofun)
    | _ => exact nomatch hw

end Dialogue.Session
