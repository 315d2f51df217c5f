import Dialogue.Text.Blank
import Mathlib.Data.List.DropRight
import Mathlib.Data.List.TakeWhile

/-!
# Texts without blanks around them

A text is trimmed if it is not empty and has no blank at either end (`Trimmed`), and a word if it
has no blank at all (`IsWord`). Trimming takes off whatever blanks are around a trimmed text, and
comes to a trimmed text if it comes to anything. Cutting at the first blank gives a word, if there
is something in front of the blank.

* `trimChars_spaced`, `trimmed_trimChars`: trimming;
* `cutAtBlank?_append`, `of_cutAtBlank?`, `cutAtBlank?_eq_none_iff`: cutting at the first blank;
* `firstWord?_of_isWord`, `isWord_of_firstWord?`: the first word.
-/

namespace Dialogue.Text

/-- Nothing but blanks. -/
def Blanks (cs : List Char) : Prop :=
  ∀ c ∈ cs, isBlankChar c = true

instance (cs : List Char) : Decidable (Blanks cs) :=
  decidable_of_iff (cs.all isBlankChar = true) List.all_eq_true

/-- Something, without a blank at either end. -/
structure Trimmed (cs : List Char) : Prop where
  head : ∃ c ∈ cs.head?, isBlankChar c = false
  last : ∃ c ∈ cs.getLast?, isBlankChar c = false

/-- Something, without a blank. -/
structure IsWord (cs : List Char) : Prop where
  ne_nil : cs ≠ []
  unblank : ∀ c ∈ cs, isBlankChar c = false

instance (cs : List Char) : Decidable (IsWord cs) :=
  decidable_of_iff (cs ≠ [] ∧ cs.all (!isBlankChar ·) = true) <| by
    simp only [List.all_eq_true, Bool.not_eq_true']
    exact ⟨fun h => ⟨h.1, h.2⟩, fun h => ⟨h.1, h.2⟩⟩

variable {cs ds lead trail word rest : List Char} {b : Char}

theorem blanks_nil : Blanks [] := List.forall_mem_nil _

theorem Trimmed.ne_nil (h : Trimmed cs) : cs ≠ [] := by
  rintro rfl
  obtain ⟨c, hc, _⟩ := h.head
  cases hc

theorem IsWord.trimmed (h : IsWord cs) : Trimmed cs where
  head := ⟨cs.head h.ne_nil, List.head?_eq_some_head h.ne_nil, h.unblank _ (List.head_mem _)⟩
  last := ⟨cs.getLast h.ne_nil, List.getLast?_eq_some_getLast h.ne_nil,
    h.unblank _ (List.getLast_mem _)⟩

/-- What is between the ends does not matter. -/
theorem Trimmed.append (h : Trimmed cs) (h' : Trimmed ds) (between : List Char) :
    Trimmed (cs ++ between ++ ds) where
  head := by
    obtain ⟨c, hc, hb⟩ := h.head
    exact ⟨c, by simp [List.head?_append, Option.mem_def.1 hc], hb⟩
  last := by
    obtain ⟨c, hc, hb⟩ := h'.last
    exact ⟨c, by simp [List.getLast?_append, Option.mem_def.1 hc], hb⟩

/-! ## Trimming -/

theorem dropBlanks_append (h : Blanks lead) (cs : List Char) :
    dropBlanks (lead ++ cs) = dropBlanks cs :=
  List.dropWhile_append_of_pos h

theorem dropBlanks_of_head (h : ∃ c ∈ cs.head?, isBlankChar c = false) : dropBlanks cs = cs := by
  obtain ⟨c, hc, hb⟩ := h
  cases cs with
  | nil => cases hc
  | cons c' cs =>
    obtain rfl := Option.some.inj hc
    exact List.dropWhile_cons_of_neg (by rw [hb]; exact Bool.false_ne_true)

/-- The blanks around a trimmed text are taken off. -/
theorem trimChars_spaced (hl : Blanks lead) (h : Trimmed cs) (ht : Blanks trail) :
    trimChars (lead ++ (cs ++ trail)) = cs := by
  have hhead : ∃ c ∈ (cs ++ trail).head?, isBlankChar c = false := by
    obtain ⟨c, hc, hb⟩ := h.head
    exact ⟨c, by simp [List.head?_append, Option.mem_def.1 hc], hb⟩
  have hlast : ∃ c ∈ cs.reverse.head?, isBlankChar c = false := by
    rw [List.head?_reverse]
    exact h.last
  rw [trimChars, dropBlanks_append hl, dropBlanks_of_head hhead, List.reverse_append,
    dropBlanks_append fun c hc => ht c (List.mem_reverse.1 hc), dropBlanks_of_head hlast,
    List.reverse_reverse]

theorem trimChars_append (hl : Blanks lead) (h : Trimmed cs) : trimChars (lead ++ cs) = cs := by
  have ht := trimChars_spaced hl h blanks_nil
  rwa [List.append_nil] at ht

theorem Trimmed.trimChars_eq (h : Trimmed cs) : trimChars cs = cs :=
  trimChars_append blanks_nil h

/-- Dropping ends at a character that does not belong to what is dropped. -/
theorem of_head?_dropWhile (p : Char → Bool) {c : Char} (cs : List Char)
    (h : (cs.dropWhile p).head? = some c) : p c = false := by
  have hn := List.head?_dropWhile_not p cs
  rw [h] at hn
  exact hn

/-- What trimming comes to is trimmed, unless it is nothing. -/
theorem trimmed_trimChars (h : trimChars cs ≠ []) : Trimmed (trimChars cs) := by
  have hr : trimChars cs = (dropBlanks cs).rdropWhile isBlankChar := rfl
  constructor
  · obtain ⟨more, hm⟩ : trimChars cs <+: dropBlanks cs := hr ▸ List.rdropWhile_prefix _ _
    have hc : (trimChars cs).head? = some ((trimChars cs).head h) := List.head?_eq_some_head h
    refine ⟨_, hc, of_head?_dropWhile _ cs ?_⟩
    rw [← dropBlanks, ← hm, List.head?_append, hc, Option.some_or]
  · rw [hr] at h ⊢
    exact ⟨_, List.getLast?_eq_some_getLast h,
      Bool.eq_false_iff.2 (List.rdropWhile_last_not _ _ h)⟩

theorem trimChars_eq_nil_iff : trimChars cs = [] ↔ Blanks cs := by
  have hr : trimChars cs = (dropBlanks cs).rdropWhile isBlankChar := rfl
  rw [hr, List.rdropWhile_eq_nil_iff]
  refine ⟨fun h => ?_, fun h c hc => h c ((List.dropWhile_sublist _).subset hc)⟩
  cases hd : dropBlanks cs with
  | nil => exact List.dropWhile_eq_nil_iff.1 hd
  | cons c rest =>
    -- The first character that is left is not blank.
    have hc : isBlankChar c = false := of_head?_dropWhile _ cs (by rw [← dropBlanks, hd]; rfl)
    rw [h c (hd ▸ List.mem_cons_self)] at hc
    cases hc

/-! ## Cutting at a blank -/

theorem unblank_takeWhile : ∀ c ∈ cs.takeWhile (fun c => !isBlankChar c), isBlankChar c = false := by
  intro c hc
  have hn : (!isBlankChar c) = true := List.mem_takeWhile_imp (p := fun c => !isBlankChar c) hc
  rwa [Bool.not_eq_true'] at hn

/-- A text is cut behind the word in front. -/
theorem cutAtBlank?_append (hw : ∀ c ∈ word, isBlankChar c = false) (hb : isBlankChar b = true)
    (rest : List Char) : cutAtBlank? (word ++ b :: rest) = some (word, rest) := by
  have hw' : ∀ c ∈ word, (!isBlankChar c) = true := fun c hc => by rw [hw c hc]; rfl
  have hb' : ¬(!isBlankChar b) = true := by rw [hb]; exact Bool.false_ne_true
  have hd : (word ++ b :: rest).dropWhile (fun c => !isBlankChar c) = b :: rest := by
    rw [List.dropWhile_append_of_pos hw']
    exact List.dropWhile_cons_of_neg hb'
  have ht : (word ++ b :: rest).takeWhile (fun c => !isBlankChar c) = word := by
    have hn : (b :: rest).takeWhile (fun c => !isBlankChar c) = [] :=
      List.takeWhile_cons_of_neg hb'
    rw [List.takeWhile_append_of_pos hw', hn, List.append_nil]
  rw [cutAtBlank?, hd, ht]

/-- There is nothing to cut in a text without a blank. -/
theorem cutAtBlank?_eq_none_iff : cutAtBlank? cs = none ↔ ∀ c ∈ cs, isBlankChar c = false := by
  have hd : cs.dropWhile (fun c => !isBlankChar c) = [] ↔ ∀ c ∈ cs, isBlankChar c = false := by
    simp [List.dropWhile_eq_nil_iff]
  rw [← hd, cutAtBlank?]
  split
  · next h => simp [h]
  · next h => simp [h]

theorem of_cutAtBlank? (h : cutAtBlank? cs = some (word, rest)) :
    (∀ c ∈ word, isBlankChar c = false) ∧
      ∃ b, isBlankChar b = true ∧ cs = word ++ b :: rest := by
  rw [cutAtBlank?] at h
  split at h
  · cases h
  · next b _ hd =>
    obtain ⟨rfl, rfl⟩ := Prod.mk.inj (Option.some.inj h)
    have hb : isBlankChar b = true := by
      have hn : (!isBlankChar b) = false :=
        of_head?_dropWhile (fun c => !isBlankChar c) cs (by rw [hd]; rfl)
      rwa [Bool.not_eq_false'] at hn
    refine ⟨unblank_takeWhile, b, hb, ?_⟩
    rw [← hd, List.takeWhile_append_dropWhile]

/-! ## The first word -/

theorem firstWord?_of_isWord (h : IsWord cs) : firstWord? cs = some cs := by
  have ht : cs.takeWhile (fun c => !isBlankChar c) = cs :=
    List.takeWhile_eq_self_iff.2 fun c hc => by rw [h.unblank c hc]; rfl
  rw [firstWord?, dropBlanks_of_head h.trimmed.head, ht]
  cases cs with
  | nil => exact absurd rfl h.ne_nil
  | cons => rfl

theorem isWord_of_firstWord? (h : firstWord? cs = some word) : IsWord word := by
  rw [firstWord?] at h
  split at h
  · cases h
  · next hn =>
    obtain rfl := Option.some.inj h
    exact ⟨fun he => hn he, unblank_takeWhile⟩

end Dialogue.Text
