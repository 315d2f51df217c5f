import Dialogue.Proofs.Message

/-!
# A transcript loses nothing

Finalizing may drop the message in progress, which is meant for one that nothing was
written to. A transcript is *lasting* (`Transcript.Lasting`) if its message in progress
would not be dropped. An operation *carries* a transcript (`Transcript.Carries`) if every
message stays where it is and at most goes on, and the result is lasting again.

* `carries_push`, `carries_begin`: a new message comes last;
* `Lasting.carries_setCurrent`: the message in progress may go on;
* `Lasting.carries_finalize`: it becomes the last finalized one;
* `carries_resume`: a message that is taken back to be continued leaves the finalized
  ones, and comes last again.
-/

namespace Dialogue.Transcript

variable {t t' t'' : Transcript}

/-- The message in progress is the assistant's, and would not be dropped. -/
structure Lasting (t : Transcript) : Prop where
  isAssistant : ∀ p ∈ t.inProgress, p.message.isAssistant = true
  kept : ∀ p ∈ t.inProgress, p.message.hasContent = true ∨ p.resumed = true

/-- Every message of one transcript goes on as the one in its place in another, in which
    the message in progress would not be dropped. -/
structure Carries (t t' : Transcript) : Prop where
  grows : Grows Message.Extends t.messages t'.messages
  lasting : t'.Lasting

theorem lasting_of_none (h : t.inProgress = none) : t.Lasting where
  isAssistant p hp := absurd (h ▸ hp) (Option.not_mem_none p)
  kept p hp := absurd (h ▸ hp) (Option.not_mem_none p)

theorem lasting_of_some {p : InProgress} (h : t.inProgress = some p)
    (ha : p.message.isAssistant = true) (hk : p.message.hasContent = true ∨ p.resumed = true) :
    t.Lasting where
  isAssistant q hq := by
    obtain rfl := Option.some.inj (h.symm.trans hq)
    exact ha
  kept q hq := by
    obtain rfl := Option.some.inj (h.symm.trans hq)
    exact hk

theorem messages_of_none (h : t.inProgress = none) : t.messages = t.finalized := by
  rw [messages, current?, h]
  exact List.append_nil _

theorem messages_of_some {p : InProgress} (h : t.inProgress = some p) :
    t.messages = t.finalized ++ [p.message] := by
  rw [messages, current?, h]
  rfl

theorem Lasting.carries (h : t.Lasting) : t.Carries t :=
  ⟨.refl Message.Extends.refl _, h⟩

theorem Carries.trans (h : t.Carries t') (h' : t'.Carries t'') : t.Carries t'' :=
  ⟨h.grows.trans (fun _ _ _ => Message.Extends.trans) h'.grows, h'.lasting⟩

/-- The last message goes on, and all others stay. -/
theorem grows_last {before : List Message} {m m' : Message} (h : m.Extends m') :
    Grows Message.Extends (before ++ [m]) (before ++ [m']) :=
  (Grows.cons h (.nil [])).append_left Message.Extends.refl before

/-! ## Adding messages -/

theorem carries_push (h : t.inProgress = none) (m : Message) : t.Carries (t.push m) where
  grows := by
    rw [messages_of_none h, messages_of_none (t := t.push m) h]
    exact (Grows.refl Message.Extends.refl _).append _
  lasting := lasting_of_none h

/-- A message that begins comes after the finalized ones. -/
theorem carries_begin (h : t.inProgress = none) {p : InProgress}
    (ha : p.message.isAssistant = true) (hk : p.message.hasContent = true ∨ p.resumed = true) :
    t.Carries { t with inProgress := some p } where
  grows := by
    rw [messages_of_none h, messages_of_some (p := p) rfl]
    exact (Grows.refl Message.Extends.refl _).append _
  lasting := lasting_of_some rfl ha hk

/-! ## The message in progress -/

theorem setCurrent_of_some {p : InProgress} (h : t.inProgress = some p) (m : Message) :
    t.setCurrent m = { t with inProgress := some { p with message := m } } := by
  rw [setCurrent, h]
  rfl

theorem Lasting.carries_setCurrent (h : t.Lasting) {p : InProgress} (hp : t.inProgress = some p)
    {m : Message} (hm : p.message.Extends m) (hc : m.hasContent = true ∨ p.resumed = true) :
    t.Carries (t.setCurrent m) := by
  rw [setCurrent_of_some hp]
  refine ⟨?_, lasting_of_some rfl (hm.isAssistant.trans (h.isAssistant p hp)) hc⟩
  rw [messages_of_some hp, messages_of_some rfl]
  exact grows_last hm

/-- The transcript with an account noted on the message in progress. -/
def noted (t : Transcript) (usage : Option Usage) : Transcript :=
  { t with inProgress := t.inProgress.map fun p => { p with message := { p.message with usage } } }

theorem noted_of_none (h : t.inProgress = none) (usage : Option Usage) : t.noted usage = t := by
  rw [noted, h, Option.map_none, ← h]

theorem noted_of_some {p : InProgress} (h : t.inProgress = some p) (usage : Option Usage) :
    t.noted usage = t.setCurrent { p.message with usage } := by
  rw [noted, setCurrent_of_some h, h]
  rfl

/-- Noting the account changes nothing that a message says. -/
theorem Lasting.carries_noted (h : t.Lasting) (usage : Option Usage) :
    t.Carries (t.noted usage) := by
  cases hp : t.inProgress with
  | none =>
    rw [noted_of_none hp]
    exact h.carries
  | some p =>
    rw [noted_of_some hp]
    exact h.carries_setCurrent hp (p.message.extends_marked _ usage) (h.kept p hp)

/-- Without a message in progress there is nothing to finalize. -/
theorem finalize_of_none (h : t.inProgress = none) (usage : Option Usage) :
    t.finalize usage = (none, t) := by
  rw [finalize, h]

/-- In a lasting transcript, the message in progress becomes the last finalized one. -/
theorem Lasting.finalize_of_some (h : t.Lasting) {p : InProgress} (hp : t.inProgress = some p)
    (usage : Option Usage) :
    t.finalize usage =
      (some (InProgress.settle p usage),
        { finalized := t.finalized ++ [InProgress.settle p usage] }) := by
  have hk : ((InProgress.settle p usage).hasContent || p.resumed) = true :=
    Bool.or_eq_true_iff.2 (h.kept p hp)
  rw [finalize, hp]
  exact if_pos hk

theorem Lasting.carries_finalize (h : t.Lasting) (usage : Option Usage) :
    t.Carries (t.finalize usage).2 := by
  cases hp : t.inProgress with
  | none =>
    rw [finalize_of_none hp]
    exact h.carries
  | some p =>
    rw [h.finalize_of_some hp]
    refine ⟨?_, lasting_of_none rfl⟩
    rw [messages_of_some hp, messages_of_none rfl]
    exact grows_last (p.message.extends_marked _ _)

/-! ## Continuing a message -/

/-- Nothing is taken back, or the last finalized message is. -/
theorem takeLastAssistant_cases (t : Transcript) :
    (t.takeLastAssistant = (none, t) ∧ ∀ m ∈ t.finalized.getLast?, m.isAssistant = false) ∨
      ∃ before m, t.finalized = before ++ [m] ∧ m.isAssistant = true ∧
        t.takeLastAssistant = (some m, { t with finalized := before }) := by
  rw [takeLastAssistant]
  cases hl : t.finalized.getLast? with
  | none => exact .inl ⟨rfl, fun m hm => absurd hm (Option.not_mem_none m)⟩
  | some m =>
    cases ha : m.isAssistant with
    | false =>
      refine .inl ⟨if_neg (by rw [ha]; exact Bool.noConfusion), fun m' hm' => ?_⟩
      rwa [← Option.some.inj hm']
    | true =>
      obtain ⟨before, hb⟩ := List.getLast?_eq_some_iff.1 hl
      refine .inr ⟨before, m, hb, ha, (if_pos ha).trans ?_⟩
      rw [hb, List.dropLast_concat]

/-- With nothing in progress, the message that is continued becomes that. -/
theorem resume_of_none (h : t.inProgress = none) (generation : Nat) (m : Message) :
    t.resume generation m =
      { t with inProgress := some ⟨generation, { m with streaming := true }, true⟩ } := by
  rw [resume, finalize_of_none h]

/-- A message that was taken back and is continued comes last again. -/
theorem carries_resume (h : t.inProgress = none) {before : List Message} {m : Message}
    (hf : t.finalized = before ++ [m]) (ha : m.isAssistant = true) (generation : Nat) :
    t.Carries (resume { t with finalized := before } generation m) := by
  rw [resume_of_none (t := { t with finalized := before }) h]
  refine ⟨?_, lasting_of_some rfl ha (.inr rfl)⟩
  rw [messages_of_none h, hf, messages_of_some rfl]
  exact grows_last (m.extends_marked true m.usage)

/-! ## Making sure of a message in progress -/

/-- If the message in progress is of the generation, nothing is finalized first. -/
theorem BelongsTo.clearedFor {generation : Nat} (h : t.BelongsTo generation) :
    t.clearedFor generation = t := by
  unfold Transcript.clearedFor
  split
  · rfl
  · next hn =>
    cases hp : t.inProgress with
    | none => rw [finalize_of_none hp]
    | some p =>
      have hc : t.currentOf? generation = some p.message := by
        rw [currentOf?, hp]
        exact if_pos (h p hp)
      rw [hc] at hn
      exact absurd rfl hn

/-- The message found for the generation is the one in progress. -/
theorem BelongsTo.currentOf? {generation : Nat} (h : t.BelongsTo generation) :
    t.currentOf? generation = t.current? := by
  rw [Transcript.currentOf?, current?]
  cases hp : t.inProgress with
  | none => rfl
  | some p => exact if_pos (h p hp)

end Dialogue.Transcript
