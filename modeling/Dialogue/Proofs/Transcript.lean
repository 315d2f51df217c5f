import Dialogue.Transcript

/-!
# What the operations of a transcript do

A transcript is *marked* if exactly the message in progress is streaming
(`Transcript.Marked`): every operation keeps it so, whatever its arguments.

Finalizing leaves no message in progress and adds at most one message to the end
(`finalized_finalize`). Making sure of a message in progress for a generation
either finds one of that generation or begins one (`ensureCurrent_eq`).
-/

namespace Dialogue

/-! ## Identifiers -/

/-- A supply from which more may have been handed out. -/
structure Ids.IsPrefixOf (ids ids' : Ids) : Prop where
  name : ids'.name = ids.name
  used : ids.used ≤ ids'.used

theorem Ids.IsPrefixOf.refl (ids : Ids) : ids.IsPrefixOf ids :=
  ⟨rfl, Nat.le_refl _⟩

theorem Ids.IsPrefixOf.trans {ids ids' ids'' : Ids} (h : ids.IsPrefixOf ids')
    (h' : ids'.IsPrefixOf ids'') : ids.IsPrefixOf ids'' :=
  ⟨h'.name.trans h.name, Nat.le_trans h.used h'.used⟩

theorem Ids.isPrefixOf_advance (ids : Ids) : ids.IsPrefixOf ids.advance :=
  ⟨rfl, Nat.le_succ _⟩

/-! ## Messages -/

namespace Message

/-- Appending text takes an identifier at most, for a new segment. -/
theorem isPrefixOf_appendText (m : Message) (ids : Ids) (text : String) :
    ids.IsPrefixOf (m.appendText ids text).2 := by
  unfold appendText
  split
  · exact .refl ids
  · split
    · exact .refl ids
    · exact ids.isPrefixOf_advance

theorem streaming_appendText (m : Message) (ids : Ids) (text : String) :
    (m.appendText ids text).1.streaming = m.streaming := by
  unfold appendText
  split
  · rfl
  · split <;> rfl

theorem streaming_applyUpdate (m : Message) (u : ToolUpdate) (create : Bool) :
    (m.applyUpdate u create).2.streaming = m.streaming := by
  unfold applyUpdate
  split
  · rfl
  · split <;> rfl

theorem streaming_applyPending (m : Message) (us : List ToolUpdate) :
    (m.applyPending us).2.streaming = m.streaming := by
  unfold applyPending
  -- The induction is on the updates, whatever changed before.
  generalize false = changed
  induction us generalizing m changed with
  | nil => rfl
  | cons u us ih =>
    rw [List.foldl_cons, ih]
    exact streaming_applyUpdate m u true

end Message

namespace Transcript

variable {t : Transcript}

theorem isEmpty_iff (t : Transcript) : t.isEmpty = true ↔ t = {} := by
  obtain ⟨finalized, inProgress⟩ := t
  rw [isEmpty, Bool.and_eq_true, List.isEmpty_iff, Option.isNone_iff_eq_none, mk.injEq]

/-! ## Finalizing -/

/-- Finalizing leaves no message in progress. -/
theorem inProgress_finalize (t : Transcript) (usage : Option Usage) :
    (t.finalize usage).2.inProgress = none := by
  unfold finalize
  split
  · next h => exact h
  · simp only
    split <;> rfl

/-- Finalizing adds the message that it returns, if any, and changes no other. -/
theorem finalized_finalize (t : Transcript) (usage : Option Usage) :
    (t.finalize usage).2.finalized = t.finalized ++ (t.finalize usage).1.toList := by
  unfold finalize
  split
  · exact (List.append_nil _).symm
  · simp only
    split
    · rfl
    · exact (List.append_nil _).symm

/-- A finalized message is not streaming. -/
theorem streaming_of_mem_finalize {usage : Option Usage} {m : Message}
    (h : m ∈ (t.finalize usage).1) : m.streaming = false := by
  unfold finalize at h
  split at h
  · exact absurd h (Option.not_mem_none m)
  · simp only at h
    split at h
    · rw [← Option.some.inj h]
      rfl
    · exact absurd h (Option.not_mem_none m)

/-! ## Streaming -/

/-- Exactly the message in progress is streaming. -/
structure Marked (t : Transcript) : Prop where
  finalized : ∀ m ∈ t.finalized, m.streaming = false
  inProgress : ∀ p ∈ t.inProgress, p.message.streaming = true

theorem marked_empty : Marked {} where
  finalized _ h := absurd h List.not_mem_nil
  inProgress _ h := absurd h (Option.not_mem_none _)

theorem Marked.push (h : t.Marked) (m : Message) : (t.push m).Marked where
  finalized m' hm' := by
    rcases List.mem_append.1 hm' with hm' | hm'
    · exact h.finalized m' hm'
    · rw [List.mem_singleton.1 hm']
      rfl
  inProgress := h.inProgress

theorem Marked.finalize (h : t.Marked) (usage : Option Usage) : (t.finalize usage).2.Marked where
  finalized m hm := by
    rw [finalized_finalize] at hm
    rcases List.mem_append.1 hm with hm | hm
    · exact h.finalized m hm
    · exact streaming_of_mem_finalize (Option.mem_toList.1 hm)
  inProgress p hp := by
    rw [inProgress_finalize] at hp
    exact absurd hp (Option.not_mem_none p)

theorem Marked.takeLastAssistant (h : t.Marked) : t.takeLastAssistant.2.Marked := by
  unfold Transcript.takeLastAssistant
  split
  · split
    · exact ⟨fun m hm => h.finalized m (List.dropLast_subset _ hm), h.inProgress⟩
    · exact h
  · exact h

theorem inProgress_takeLastAssistant (t : Transcript) :
    t.takeLastAssistant.2.inProgress = t.inProgress := by
  unfold takeLastAssistant
  split
  · split <;> rfl
  · rfl

theorem Marked.resume (h : t.Marked) (generation : Nat) (m : Message) :
    (t.resume generation m).Marked where
  finalized := (h.finalize none).finalized
  inProgress p hp := by
    rw [← Option.some.inj hp]

theorem Marked.setCurrent (h : t.Marked) {m : Message} (hm : m.streaming = true) :
    (t.setCurrent m).Marked where
  finalized := h.finalized
  inProgress p hp := by
    obtain ⟨q, _, rfl⟩ := Option.map_eq_some_iff.1 hp
    exact hm

/-- Stored messages are marked by settling each. -/
theorem marked_settled (ms : List Message) : Marked { finalized := ms.map .settled } where
  finalized m hm := by
    obtain ⟨m', _, rfl⟩ := List.mem_map.1 hm
    rfl
  inProgress p hp := absurd hp (Option.not_mem_none p)

/-! ## Making sure of a message in progress -/

/-- The transcript once a message in progress that is of another generation is
    finalized. -/
def clearedFor (t : Transcript) (generation : Nat) : Transcript :=
  if (t.currentOf? generation).isSome then t else (t.finalize none).2

theorem ensureCurrent_eq (t : Transcript) (generation : Nat) (ids : Ids) (now : Int) :
    t.ensureCurrent generation ids now =
      match (t.clearedFor generation).inProgress with
      | some p => (p.message, ids, t.clearedFor generation)
      | none =>
        (.beginAssistant ids.next now, ids.advance, { t.clearedFor generation with
          inProgress := some ⟨generation, .beginAssistant ids.next now, false⟩ }) := rfl

/-- Making sure of a message in progress takes an identifier at most. -/
theorem isPrefixOf_ensureCurrent (t : Transcript) (generation : Nat) (ids : Ids) (now : Int) :
    ids.IsPrefixOf (t.ensureCurrent generation ids now).2.1 := by
  rw [ensureCurrent_eq]
  split
  · exact .refl ids
  · exact ids.isPrefixOf_advance

/-- The message in progress, if any, is of a generation. -/
def BelongsTo (t : Transcript) (generation : Nat) : Prop :=
  ∀ p ∈ t.inProgress, p.generation = generation

theorem belongsTo_clearedFor (t : Transcript) (generation : Nat) :
    (t.clearedFor generation).BelongsTo generation := by
  intro p hp
  unfold clearedFor at hp
  split at hp
  · -- A message is found for the generation, so it belongs to it.
    next h =>
    rw [currentOf?, Option.mem_def.1 hp] at h
    by_cases hg : p.generation = generation
    · exact hg
    · exact absurd h (by simp only [if_neg hg, Option.isSome_none, Bool.false_eq_true,
        not_false_eq_true])
  · rw [inProgress_finalize] at hp
    exact absurd hp (Option.not_mem_none p)

theorem Marked.clearedFor (h : t.Marked) (generation : Nat) : (t.clearedFor generation).Marked := by
  unfold Transcript.clearedFor
  split
  · exact h
  · exact h.finalize none

/-- Making sure of a message in progress gives one that is streaming. -/
theorem Marked.ensureCurrent (h : t.Marked) (generation : Nat) (ids : Ids) (now : Int) :
    (t.ensureCurrent generation ids now).2.2.Marked ∧
      (t.ensureCurrent generation ids now).1.streaming = true := by
  have hc := h.clearedFor generation
  rw [ensureCurrent_eq]
  split
  · next p hp => exact ⟨hc, hc.inProgress p hp⟩
  · -- The message is a new one, streaming from its beginning.
    refine ⟨⟨hc.finalized, fun p hp => ?_⟩, rfl⟩
    rw [← Option.some.inj hp]
    rfl

theorem belongsTo_ensureCurrent (t : Transcript) (generation : Nat) (ids : Ids) (now : Int) :
    (t.ensureCurrent generation ids now).2.2.BelongsTo generation := by
  rw [ensureCurrent_eq]
  split
  · exact belongsTo_clearedFor t generation
  · intro p hp
    rw [← Option.some.inj hp]

theorem BelongsTo.setCurrent {generation : Nat} (h : t.BelongsTo generation) (m : Message) :
    (t.setCurrent m).BelongsTo generation := by
  intro p hp
  obtain ⟨q, hq, rfl⟩ := Option.map_eq_some_iff.1 hp
  exact h q hq

/-- The message found for a generation is the message in progress. -/
theorem inProgress_of_currentOf? {generation : Nat} {m : Message}
    (hm : t.currentOf? generation = some m) : ∃ p, t.inProgress = some p ∧ p.message = m := by
  unfold currentOf? at hm
  split at hm
  · next p hp =>
    split at hm
    · exact ⟨p, hp, Option.some.inj hm⟩
    · exact absurd hm (Option.some_ne_none m).symm
  · exact absurd hm (Option.some_ne_none m).symm

theorem Marked.streaming_of_currentOf? (h : t.Marked) {generation : Nat} {m : Message}
    (hm : t.currentOf? generation = some m) : m.streaming = true := by
  obtain ⟨p, hp, rfl⟩ := inProgress_of_currentOf? hm
  exact h.inProgress p hp

end Transcript

end Dialogue
