import Dialogue.Proofs.Session.Answering

/-!
# What an event inscribes

Events write in three ways (`TurnEvent.writing?`): tokens are text, and there is news of calls
that are pending and of a single call. What an event writes goes to the message under way, which
is the one in progress, or a new one (`Session.Inscribes`). An event about the account writes
nothing, and only notes it on the message.

The main statement is that every event that is not terminal does so (`inscribes_apply`). It says
which message takes the place of the one under way, so that what the events of a stream do to a
message is told by what can be written to any message.
-/

namespace Dialogue

/-- What an event writes to the message under way. -/
def TurnEvent.writing? : TurnEvent → Option Writing
  | .token words => some (.text words)
  | .toolsPending us => some (.pending us)
  | .tool kind u => some (.update u kind.createsSegment)
  | _ => none

namespace Session

open Transcript

variable {s s' : Session} {e : TurnEvent}

/-- What an event does to the transcript: nothing, if what it writes makes no difference, or it
    notes the account, or it writes to the message under way. -/
inductive Inscribes (s : Session) (e : TurnEvent) (s' : Session) : Prop
  | nothing : (∀ w ∈ e.writing?, ∀ ids, s.underWay.message.write ids w = s.underWay.message) →
      s'.transcript = s.transcript → Inscribes s e s'
  | notes {usage : Option Usage} : e.writing? = none →
      s'.transcript = s.transcript.noted usage → Inscribes s e s'
  | writes {w : Writing} (ids : Ids) : e.writing? = some w →
      s'.transcript = { s.transcript with
        inProgress := some { s.underWay with message := s.underWay.message.write ids w } } →
      Inscribes s e s'

theorem inscribes_of_none (hw : e.writing? = none) (hx : s'.transcript = s.transcript) :
    s.Inscribes e s' :=
  .nothing (fun w h => absurd (hw ▸ h) (Option.not_mem_none w)) hx

theorem inscribes_appendText (hb : s.transcript.BelongsTo s.generation) (words : String) :
    s.Inscribes (.token words) (s.appendText words) := by
  by_cases hw : words = ""
  · subst hw
    refine .nothing (fun w hw ids => ?_) rfl
    rw [← Option.some.inj hw]
    rfl
  · obtain ⟨ids, hx⟩ := transcript_appendText hb hw
    exact .writes ids rfl hx

theorem inscribes_applyPending (hb : s.transcript.BelongsTo s.generation)
    (us : List ToolUpdate) : s.Inscribes (.toolsPending us) (s.applyPending us) := by
  by_cases hu : us = []
  · subst hu
    refine .nothing (fun w hw ids => ?_) rfl
    rw [← Option.some.inj hw]
    rfl
  · let ids := s.ensureCurrent.2.ids
    obtain ⟨hm, hx⟩ := transcript_updateEnsured hb ids (s.underWay.message.write ids (.pending us))
    have hc := (s.ensureCurrent.1.changed_applyPending hu).1
    refine .writes ids rfl ?_
    rw [applyPending, if_neg (mt List.isEmpty_iff.1 hu)]
    simp only [hc, if_true]
    rw [hm]
    exact hx

theorem inscribes_applyTool (hb : s.transcript.BelongsTo s.generation) (kind : ToolEvent)
    (u : ToolUpdate) : s.Inscribes (.tool kind u) (s.applyTool kind u) := by
  let ids := s.ensureCurrent.2.ids
  cases hk : kind.createsSegment with
  | true =>
    have hw : (TurnEvent.tool kind u).writing? = some (.update u true) := by
      rw [TurnEvent.writing?, hk]
    obtain ⟨hm, hx⟩ := transcript_updateEnsured hb ids
      (s.underWay.message.write ids (.update u true))
    have hc := s.ensureCurrent.1.changed_applyUpdate u
    refine .writes ids hw ?_
    rw [applyTool, if_pos hk]
    simp only [hc, if_true]
    rw [hm]
    exact hx
  | false =>
    have hw : (TurnEvent.tool kind u).writing? = some (.update u false) := by
      rw [TurnEvent.writing?, hk]
    rw [applyTool, if_neg (by rw [hk]; exact Bool.noConfusion), hb.currentOf?, current?]
    cases hp : s.transcript.inProgress with
    | none =>
      -- A message that has not begun has no call that there could be news of.
      refine .nothing (fun w h ids => ?_) rfl
      rw [hw] at h
      rw [← Option.some.inj h, underWay, hp]
      rfl
    | some p =>
      have hu : s.underWay = p := by rw [underWay, hp]; rfl
      simp only [Option.map_some]
      split
      · have hx := (transcript_updateCurrent s (p.message.applyUpdate u false).2).trans
          (setCurrent_of_some hp _)
        refine .writes ids hw ?_
        rw [hu]
        exact hx
      · next hc =>
        refine .nothing (fun w h ids => ?_) rfl
        rw [hw] at h
        rw [← Option.some.inj h, hu]
        exact p.message.applyUpdate_of_ignored u hc

/-- Every event that is not terminal writes to the message under way what it writes. -/
theorem inscribes_apply (hb : s.transcript.BelongsTo s.generation) (he : e.isTerminal = false) :
    s.Inscribes e (s.apply e) := by
  have hrecord (delta : Usage) :=
    (congrArg Session.transcript (recordUsage_eq s delta)).trans (accountedTranscript_eq hb delta)
  cases e with
  | ready runId => exact inscribes_of_none rfl rfl
  | token words => exact inscribes_appendText hb words
  | toolsPending us => exact inscribes_applyPending hb us
  | tool kind u => exact inscribes_applyTool hb kind u
  | usage report source =>
    rw [apply]
    split
    · exact .notes rfl (hrecord report)
    · exact inscribes_of_none rfl rfl
  | firstToken time => exact .notes rfl (hrecord _)
  | completed time | error message => exact Bool.noConfusion he

end Session

end Dialogue
