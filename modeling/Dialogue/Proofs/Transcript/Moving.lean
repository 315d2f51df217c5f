import Dialogue.Proofs.Transcript.Growth
import Mathlib.Logic.Relation

/-!
# How a transcript is moved about

Events write to the message in progress. Whatever else happens to a transcript is a sequence
of *moves* (`Transcript.Moves`): the message in progress is finalized, a message of the user
comes last, or the last message, if it is the assistant's, is taken back to be continued. None
of them changes what a message says.

* `Move.carries`, `Moves.carries`: moves carry a transcript;
* `Keeps`, `Moves.keeps`: every message stays in its place and says what it said, and those
  that are new are the user's;
* `Moves.inProgress`: a message that comes to be in progress was taken back.
-/

namespace Dialogue

/-- A message apart from whether it is being written, and what it used. -/
def Message.unmarked (m : Message) : Message :=
  { m with streaming := false, usage := none }

namespace Transcript

variable {t t' t'' : Transcript}

/-- One move. -/
inductive Move (t : Transcript) : Transcript → Prop
  | finalizes (usage : Option Usage) : Move t (t.finalize usage).2
  | pushes {m : Message} : t.inProgress = none → m.isAssistant = false → Move t (t.push m)
  | resumes {before : List Message} {m : Message} (generation : Nat) : t.inProgress = none →
      t.finalized = before ++ [m] → m.isAssistant = true →
      Move t (resume { t with finalized := before } generation m)

/-- Any number of moves. -/
def Moves : Transcript → Transcript → Prop :=
  Relation.ReflTransGen Move

theorem Moves.refl (t : Transcript) : t.Moves t :=
  Relation.ReflTransGen.refl

theorem Moves.trans (h : t.Moves t') (h' : t'.Moves t'') : t.Moves t'' :=
  Relation.ReflTransGen.trans h h'

theorem Move.moves (h : t.Move t') : t.Moves t' :=
  Relation.ReflTransGen.single h

/-! ## Nothing is lost -/

theorem Move.carries (h : t.Move t') (hl : t.Lasting) : t.Carries t' := by
  cases h with
  | finalizes usage => exact hl.carries_finalize usage
  | pushes hp _ => exact carries_push hp _
  | resumes generation hp hf ha => exact carries_resume hp hf ha generation

theorem Moves.carries (h : t.Moves t') (hl : t.Lasting) : t.Carries t' := by
  induction h with
  | refl => exact hl.carries
  | tail _ hm ih => exact ih.trans (hm.carries ih.lasting)

/-! ## Nothing is said differently -/

/-- Every message of one transcript says the same in another one, in its place, and the others
    there are the user's. -/
def Keeps (t t' : Transcript) : Prop :=
  ∃ new : List Message, t'.messages.map Message.unmarked =
      t.messages.map Message.unmarked ++ new ∧ ∀ m ∈ new, m.isAssistant = false

theorem keeps_of_eq (h : t'.messages.map Message.unmarked = t.messages.map Message.unmarked) :
    t.Keeps t' :=
  ⟨[], by rw [h, List.append_nil], List.forall_mem_nil _⟩

theorem Keeps.trans (h : t.Keeps t') (h' : t'.Keeps t'') : t.Keeps t'' := by
  obtain ⟨new, hn, hu⟩ := h
  obtain ⟨new', hn', hu'⟩ := h'
  exact ⟨new ++ new', by rw [hn', hn, List.append_assoc], List.forall_mem_append.2 ⟨hu, hu'⟩⟩

/-- Finalizing changes nothing that a message says. -/
theorem Lasting.unmarked_finalize (h : t.Lasting) (usage : Option Usage) :
    (t.finalize usage).2.messages.map Message.unmarked = t.messages.map Message.unmarked := by
  cases hp : t.inProgress with
  | none => rw [finalize_of_none hp]
  | some p =>
    rw [h.finalize_of_some hp, messages_of_some hp, messages_of_none rfl, List.map_append,
      List.map_append]
    rfl

theorem Move.keeps (h : t.Move t') (hl : t.Lasting) : t.Keeps t' := by
  cases h with
  | finalizes usage => exact keeps_of_eq (hl.unmarked_finalize usage)
  | @pushes m hp hm =>
    refine ⟨[m.unmarked], ?_, List.forall_mem_singleton.2 hm⟩
    rw [messages_of_none hp, messages_of_none (t := t.push m) hp, push, List.map_append]
    rfl
  | @resumes before m generation hp hf _ =>
    rw [resume_of_none (t := { t with finalized := before }) hp]
    refine keeps_of_eq ?_
    rw [messages_of_none hp, hf, messages_of_some rfl, List.map_append, List.map_append]
    rfl

theorem Moves.keeps (h : t.Moves t') (hl : t.Lasting) : t.Keeps t' := by
  induction h with
  | refl => exact keeps_of_eq rfl
  | tail hm hn ih => exact ih.trans (hn.keeps (Moves.carries hm hl).lasting)

/-- The message in progress was that before, or it was taken back. -/
theorem Moves.inProgress (h : t.Moves t') :
    ∀ p ∈ t'.inProgress, t.inProgress = some p ∨ p.resumed = true := by
  induction h with
  | refl => exact fun p hp => .inl hp
  | tail _ hm ih =>
    cases hm with
    | finalizes usage =>
      rw [inProgress_finalize]
      exact fun p hp => absurd hp (Option.not_mem_none p)
    | pushes _ _ => exact ih
    | resumes generation hn _ _ =>
      rintro p ⟨⟩
      exact .inr rfl

/-- What the assistant says in a transcript was said in the same place before. -/
theorem Keeps.getElem? (h : t.Keeps t') {n : Nat} {m : Message} (hm : t'.messages[n]? = some m)
    (ha : m.isAssistant = true) :
    ∃ m', t.messages[n]? = some m' ∧ m'.unmarked = m.unmarked := by
  obtain ⟨new, hn, hu⟩ := h
  have hk : (t.messages.map Message.unmarked ++ new)[n]? = some m.unmarked := by
    rw [← hn, List.getElem?_map, hm, Option.map_some]
  rcases Nat.lt_or_ge n (t.messages.map Message.unmarked).length with hl | hl
  · rw [List.getElem?_append_left hl, List.getElem?_map] at hk
    exact Option.map_eq_some_iff.1 hk
  · -- The messages that are new are the user's.
    rw [List.getElem?_append_right hl] at hk
    exact Bool.noConfusion ((hu _ (List.mem_of_getElem? hk)).symm.trans ha)

/-- And what was said is said in the same place. -/
theorem Keeps.getElem?_of (h : t.Keeps t') {n : Nat} {m : Message} (hm : t.messages[n]? = some m) :
    ∃ m', t'.messages[n]? = some m' ∧ m'.unmarked = m.unmarked := by
  obtain ⟨new, hn, _⟩ := h
  have hl : n < (t.messages.map Message.unmarked).length := by
    rw [List.length_map]
    exact (List.getElem?_eq_some_iff.1 hm).1
  have hk : (t'.messages.map Message.unmarked)[n]? = some m.unmarked := by
    rw [hn, List.getElem?_append_left hl, List.getElem?_map, hm, Option.map_some]
  rw [List.getElem?_map] at hk
  exact Option.map_eq_some_iff.1 hk

theorem Keeps.length_le (h : t.Keeps t') : t.messages.length ≤ t'.messages.length := by
  obtain ⟨new, hn, _⟩ := h
  have hl := congrArg List.length hn
  rw [List.length_append, List.length_map, List.length_map] at hl
  omega

end Transcript

end Dialogue
