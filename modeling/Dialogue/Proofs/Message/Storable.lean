import Dialogue.Proofs.Json.Records
import Dialogue.Proofs.Message.Stable

/-!
# Messages that can be stored

What has to be known of a message for its record to be read as it was written (`Storable`). The
segments of calls are named, and the values that calls have are in order. If the message has no
content, then its text segments have none either, since they would be read in its place. And the
time at which it began is one of 64 bits.

The main statement is that this is stable (`stable_storable`), if the values in what is written
are in order.
-/

namespace Dialogue

open Json

/-- The values in news of a call are in order. -/
structure ToolUpdate.Ordered (u : ToolUpdate) : Prop where
  arguments : ∀ v ∈ u.arguments, v.Ordered
  result : ∀ v ∈ u.result, v.Ordered

namespace ToolExecution

/-- The values that a call has are in order. -/
structure Ordered (e : ToolExecution) : Prop where
  arguments : e.arguments.Ordered
  result : ∀ v ∈ e.result, v.Ordered

theorem Ordered.merge {e : ToolExecution} {u : ToolUpdate} (h : e.Ordered) (hu : u.Ordered) :
    (e.merge u).Ordered where
  arguments := by
    rw [ToolExecution.merge]
    cases ha : u.arguments with
    | none => exact h.arguments
    | some v => exact hu.arguments v ha
  result := by
    rw [ToolExecution.merge]
    cases hr : u.result with
    | none => exact h.result
    | some v =>
      rintro v ⟨⟩
      exact hu.result v hr

theorem ordered_ofUpdate {u : ToolUpdate} (h : u.Ordered) (status : ToolStatus) :
    (ofUpdate u status).Ordered :=
  have hb : (bare u.callId status).Ordered := ⟨.null, fun v hv => absurd hv (Option.not_mem_none v)⟩
  hb.merge h

end ToolExecution

namespace Segment

/-- The values that the call of a segment has are in order. -/
def Ordered (s : Segment) : Prop :=
  ∀ e ∈ s.execution?, e.Ordered

theorem stable_ordered : Stable ToolUpdate.Ordered Ordered where
  text _ _ _ he := absurd he (Option.not_mem_none _)
  begun hu status := by
    rintro e ⟨⟩
    exact ToolExecution.ordered_ofUpdate hu status
  merged := by
    rintro id e u hu h e' ⟨⟩
    exact (h e rfl).merge hu

end Segment

namespace Message

open Written

variable {m m' : Message}

/-- Without content, a message has no text in its segments either. -/
def Voiced (m : Message) : Prop :=
  m.content = "" → String.join (m.segments.filterMap Segment.text?) = ""

/-- What is written to the content is written to the segments. -/
theorem Gains.voiced {ws : List Written} (h : m.Gains ws m') (hv : m.Voiced) : m'.Voiced := by
  intro he
  rw [h.content, String.append_eq_empty_iff] at he
  have ht : String.join (texts m'.outline) = String.join (texts (m.outline ++ ws)) :=
    join_texts_of_spelled (by rw [h.spelled, spelled_append])
  rw [texts_append, String.join_append, outline, Segment.texts_outline, outline,
    Segment.texts_outline, hv he.1, he.2] at ht
  exact ht

theorem exists_gains_write (m : Message) (ids : Ids) (w : Writing) :
    ∃ ws, m.Gains ws (m.write ids w) := by
  by_cases hw : ∃ words, w = .text words
  · obtain ⟨words, rfl⟩ := hw
    exact ⟨_, m.gains_appendText ids words⟩
  · obtain ⟨callIds, h⟩ := m.gains_write ids (not_exists.1 hw)
    exact ⟨_, h⟩

/-- What has to be known of a message for its record to be read as it was written. -/
structure Storable (m : Message) : Prop where
  identified : m.Identified
  ordered : ∀ s ∈ m.segments, s.Ordered
  voiced : m.Voiced
  createdAt : IsInt64 m.createdAt

theorem stable_storable {now : Int} (hn : IsInt64 now) :
    Stable (fun w => ∀ u ∈ w.updates, u.Ordered) now Storable where
  input id content := ⟨(stable_identified now).input id content, List.forall_mem_nil _,
    fun _ => rfl, hn⟩
  begun id := ⟨(stable_identified now).begun id, List.forall_mem_nil _, fun _ => rfl, hn⟩
  marked ha h streaming usage := ⟨(stable_identified now).marked ha h.identified streaming usage,
    h.ordered, h.voiced, h.createdAt⟩
  written {m w} ha hw h ids := by
    obtain ⟨ws, hg⟩ := m.exists_gains_write ids w
    refine ⟨(stable_identified now).written ha trivial h.identified ids,
      forall_segments_write Segment.stable_ordered h.ordered hw ids, hg.voiced h.voiced, ?_⟩
    rw [(m.extends_write ids w).createdAt]
    exact h.createdAt

end Message

end Dialogue
