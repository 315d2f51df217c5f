import Dialogue.Proofs.Session.Operations
import Dialogue.Proofs.Transcript.Growth

/-!
# What an event writes

An event that is not terminal writes to the message in progress or to none
(`Session.Writes`): it leaves the transcript alone, notes the account on the message,
goes on with the message, or begins one. A message that was gone on with, or begun,
has something to show and is told at once.

The main statement is that these are all (`writes_apply`), as long as the message in
progress is that of the stream.
-/

namespace Dialogue

/-- Whether an update is about the account alone. -/
def Update.isTick : Update → Bool
  | .usageTick _ _ => true
  | _ => false

namespace Session

open Effect

variable {s s' : Session}

/-- What an event that is not terminal does to the transcript, and what is told of it. -/
inductive Writes (s s' : Session) : Prop
  | nothing : s'.transcript = s.transcript → s'.outbox = s.outbox → Writes s s'
  | notes {usage : Option Usage} {ticks : List Update} :
      s'.transcript = s.transcript.noted usage → (∀ u ∈ ticks, u.isTick = true) →
      s'.outbox = s.outbox ++ tellings ticks → Writes s s'
  | goesOn {p : InProgress} {m : Message} : s.transcript.inProgress = some p →
      p.message.Extends m → m.hasContent = true → s'.transcript = s.transcript.setCurrent m →
      s'.outbox = s.outbox ++ tellings [.messageUpdated m] → Writes s s'
  | begins {m : Message} : s.transcript.inProgress = none →
      (Message.beginAssistant s.ids.next s.now).Extends m → m.hasContent = true →
      s.ids.advance.IsPrefixOf s'.ids →
      s'.transcript = { s.transcript with inProgress := some ⟨s.generation, m, false⟩ } →
      s'.outbox = s.outbox ++ tellings [.messageUpdated m] → Writes s s'

/-! ## The message in progress -/

theorem ensureCurrent_of_some (hb : s.transcript.BelongsTo s.generation) {p : InProgress}
    (hp : s.transcript.inProgress = some p) : s.ensureCurrent = (p.message, s) := by
  rw [ensureCurrent, Transcript.ensureCurrent_eq, hb.clearedFor, hp]

/-- The session with an answer begun that nothing was written to yet. -/
def answering (s : Session) : Session :=
  { s with
    ids := s.ids.advance
    transcript := { s.transcript with
      inProgress := some ⟨s.generation, .beginAssistant s.ids.next s.now, false⟩ } }

theorem ensureCurrent_of_none (hp : s.transcript.inProgress = none) :
    s.ensureCurrent = (.beginAssistant s.ids.next s.now, s.answering) := by
  have hb : s.transcript.BelongsTo s.generation := fun p h =>
    absurd (hp ▸ h) (Option.not_mem_none p)
  rw [ensureCurrent, Transcript.ensureCurrent_eq, hb.clearedFor, hp]
  rfl

/-- The message that takes the place of the one in progress is told. -/
theorem updateCurrent_eq {p : InProgress} (hp : s.transcript.inProgress = some p) (m : Message) :
    s.updateCurrent m = { s with
      transcript := s.transcript.setCurrent m
      outbox := s.outbox ++ tellings [.messageUpdated m] } := by
  have hc : (s.transcript.setCurrent m).current? = some m := by
    rw [Transcript.setCurrent_of_some hp]
    rfl
  rw [updateCurrent, tellCurrent_eq, hc]
  rfl

theorem writes_updateCurrent {p : InProgress} (hp : s.transcript.inProgress = some p)
    {m : Message} (hm : p.message.Extends m) (hc : m.hasContent = true) {ids : Ids} :
    s.Writes (updateCurrent { s with ids } m) := by
  rw [updateCurrent_eq (s := { s with ids }) hp]
  exact .goesOn hp hm hc rfl rfl

/-- What is written to the message in progress, which is begun if there is none. -/
theorem writes_ensured (hb : s.transcript.BelongsTo s.generation) {ids : Ids}
    (hi : s.ensureCurrent.2.ids.IsPrefixOf ids) {m : Message}
    (hm : s.ensureCurrent.1.Extends m) (hc : m.hasContent = true) :
    s.Writes (updateCurrent { s.ensureCurrent.2 with ids } m) := by
  cases hp : s.transcript.inProgress with
  | some p =>
    rw [ensureCurrent_of_some hb hp] at hm ⊢
    exact writes_updateCurrent hp hm hc
  | none =>
    rw [ensureCurrent_of_none hp] at hm hi ⊢
    rw [updateCurrent_eq (s := { s.answering with ids }) rfl]
    exact .begins hp hm hc hi rfl rfl

/-! ## Events -/

theorem writes_appendText (hb : s.transcript.BelongsTo s.generation) (text : String) :
    s.Writes (s.appendText text) := by
  rw [appendText]
  split
  · exact .nothing rfl rfl
  · next ht =>
    exact writes_ensured hb (Message.isPrefixOf_appendText _ _ text)
      (Message.extends_appendText _ _ text) (Message.hasContent_appendText _ _ ht)

/-- Pending calls always change the message, so one that begins with them is told. -/
theorem writes_applyPending (hb : s.transcript.BelongsTo s.generation) (us : List ToolUpdate) :
    s.Writes (s.applyPending us) := by
  rw [applyPending]
  split
  · exact .nothing rfl rfl
  · next hu =>
    obtain ⟨hc, hs⟩ := s.ensureCurrent.1.changed_applyPending (mt List.isEmpty_iff.2 hu)
    simp only [hc, if_true]
    exact writes_ensured hb (.refl _) (Message.extends_applyPending _ us) hs

theorem writes_applyTool (hb : s.transcript.BelongsTo s.generation) (kind : ToolEvent)
    (u : ToolUpdate) : s.Writes (s.applyTool kind u) := by
  rw [applyTool]
  split
  · have hc := s.ensureCurrent.1.changed_applyUpdate u
    simp only [hc, if_true]
    exact writes_ensured hb (.refl _) (Message.extends_applyUpdate _ u true)
      (Message.hasContent_applyUpdate _ u true hc)
  · split
    · exact .nothing rfl rfl
    · next m hm =>
      rw [hb.currentOf?] at hm
      obtain ⟨p, hp, rfl⟩ := Option.map_eq_some_iff.1 hm
      simp only
      split
      · next hc =>
        exact writes_updateCurrent hp (Message.extends_applyUpdate _ u false)
          (Message.hasContent_applyUpdate _ u false hc)
      · exact .nothing rfl rfl

/-- The account is noted on the message in progress, if there is one. -/
theorem accountedTranscript_eq (hb : s.transcript.BelongsTo s.generation) (delta : Usage) :
    s.accountedTranscript delta =
      s.transcript.noted (some (inFlightUsage { s with usage := s.usage.merge delta })) := by
  rw [accountedTranscript, hb.currentOf?, Transcript.current?, Transcript.noted]
  cases hp : s.transcript.inProgress with
  | none => rw [Option.map_none, Option.map_none, ← hp]
  | some p => exact Transcript.setCurrent_of_some hp _

theorem writes_recordUsage (hb : s.transcript.BelongsTo s.generation) (delta : Usage) :
    s.Writes (s.recordUsage delta) := by
  rw [recordUsage_eq]
  refine .notes (accountedTranscript_eq hb delta) (fun u hu => ?_) rfl
  split at hu
  · rw [List.mem_singleton.1 hu]
    rfl
  · exact absurd hu List.not_mem_nil

/-- Every event that is not terminal writes in one of these ways. -/
theorem writes_apply (hb : s.transcript.BelongsTo s.generation) {e : TurnEvent}
    (he : e.isTerminal = false) : s.Writes (s.apply e) := by
  cases e with
  | ready runId => exact .nothing rfl rfl
  | token text => exact writes_appendText hb text
  | toolsPending us => exact writes_applyPending hb us
  | tool kind u => exact writes_applyTool hb kind u
  | usage report source =>
    rw [apply]
    split
    · exact writes_recordUsage hb report
    · exact .nothing rfl rfl
  | firstToken time => exact writes_recordUsage hb _
  | completed time => exact absurd he Bool.noConfusion
  | error message => exact absurd he Bool.noConfusion

end Session

end Dialogue
