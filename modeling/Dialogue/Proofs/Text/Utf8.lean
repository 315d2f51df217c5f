import Dialogue.Proofs.Cutter
import Dialogue.Text.Utf8
import Mathlib.Tactic

/-!
# Cutting octets into characters

The characters of a text in UTF-8 are taken off its octets one by one (`characters`).
What is left is the octets that spell no character: none, a part of one, or octets from
the first that fits nowhere on.

* `Decoder.Holds.step`: the decoder that takes in octet by octet gives out the same
  characters, each with the last of its octets;
* `cut_encode`: what a text is spelled with is cut into its characters, with nothing left;
* `decode?_encode`: so it is read as that text.
-/

namespace Dialogue.Text.Utf8

variable {xs : List UInt8} {b b₀ b₁ b₂ b₃ : UInt8} {c : Char} {n v : Nat}

/-! ## The first character -/

/-- What follows does not change a character, nor that there is none. -/
theorem head_append (more : List UInt8) (he : head xs ≠ .empty) (hi : head xs ≠ .incomplete) :
    head (xs ++ more) = head xs := by
  rcases xs with _ | ⟨b₀, _ | ⟨b₁, _ | ⟨b₂, _ | ⟨b₃, rest⟩⟩⟩⟩ <;> unfold head at * <;> grind

theorem length_of_head (h : head xs = .char c n) : 0 < n ∧ n ≤ xs.length := by
  rcases xs with _ | ⟨b₀, _ | ⟨b₁, _ | ⟨b₂, _ | ⟨b₃, rest⟩⟩⟩⟩ <;> unfold head at * <;> grind

theorem head_eq_empty_iff : head xs = .empty ↔ xs = [] := by
  rcases xs with _ | ⟨b₀, _ | ⟨b₁, _ | ⟨b₂, _ | ⟨b₃, rest⟩⟩⟩⟩ <;> unfold head <;> grind

/-- A character that was incomplete ends with the octet that completes it. -/
theorem length_of_head_concat (h : head xs = .empty ∨ head xs = .incomplete)
    (hc : head (xs ++ [b]) = .char c n) : n = xs.length + 1 := by
  rcases h with h | h
  · obtain rfl := head_eq_empty_iff.1 h
    have := length_of_head hc
    grind
  · rcases xs with _ | ⟨b₀, _ | ⟨b₁, _ | ⟨b₂, _ | ⟨b₃, rest⟩⟩⟩⟩ <;> unfold head at h hc <;>
      simp only [List.cons_append, List.nil_append, List.length_cons, List.length_nil] at * <;>
      grind

/-- The characters, taken off octets. -/
def characters : Cutter UInt8 Char where
  next? bs :=
    match head bs with
    | .char c n => some (c, bs.drop n)
    | _ => none
  shorter h := by
    split at h
    · next hh =>
      have := length_of_head hh
      cases h
      rw [List.length_drop]
      omega
    · cases h
  stable more h := by
    split at h
    · next hh =>
      have := length_of_head hh
      cases h
      rw [head_append more (by simp [hh]) (by simp [hh]), hh]
      simp only [List.drop_append_of_le_length this.2]
    · cases h

theorem next?_characters : characters.next? xs =
    match head xs with
    | .char c n => some (c, xs.drop n)
    | _ => none := rfl

/-! ## Octet by octet -/

/-- A decoder holds back octets: none of them spell a character yet, and if it is stuck
    they never will. -/
structure Decoder.Holds (d : Decoder) (left : List UInt8) : Prop where
  held : d.held.reverse = left
  next? : characters.next? left = none
  stuck : d.stuck = true ↔ ∃ n, head left = .invalid n

theorem Decoder.holds_start : ({} : Decoder).Holds [] where
  held := rfl
  next? := rfl
  stuck := by simp [head]

theorem Decoder.Holds.fault? {d : Decoder} (h : d.Holds xs) :
    d.fault? =
      match head xs with
      | .empty => none
      | .invalid length => some (.invalid length)
      | _ => some .incomplete := by
  obtain ⟨rfl, _, _⟩ := h
  rfl

/-- With one octet more the decoder gives out the character that is complete, if any, and
    holds back what is left. -/
theorem Decoder.Holds.step {d : Decoder} {left : List UInt8} (h : d.Holds left) (b : UInt8) :
    (d.step b).2.toList = (characters.cut (left ++ [b])).1 ∧
      (d.step b).1.Holds (characters.cut (left ++ [b])).2 := by
  have hr : (b :: d.held).reverse = left ++ [b] := by rw [List.reverse_cons, h.held]
  have hn : characters.next? left = _ := next?_characters
  rw [h.next?] at hn
  rw [Decoder.step]
  split
  · -- A stuck decoder stays stuck: more octets do not make an invalid one valid.
    next hs =>
    obtain ⟨n, hh⟩ := h.stuck.1 hs
    have hb : head (left ++ [b]) = .invalid n := by
      rw [head_append [b] (by simp [hh]) (by simp [hh]), hh]
    have hnext : characters.next? (left ++ [b]) = none := by rw [next?_characters, hb]
    rw [characters.cut_of_none hnext]
    exact ⟨rfl, hr, hnext, fun _ => ⟨n, hb⟩, fun _ => hs⟩
  · next hs =>
    have open' : head left = .empty ∨ head left = .incomplete := by
      cases hh : head left with
      | empty => exact .inl rfl
      | incomplete => exact .inr rfl
      | invalid n => exact absurd (h.stuck.2 ⟨n, hh⟩) hs
      | char c n =>
        rw [hh] at hn
        cases hn
    rw [hr]
    split
    · next c n hh =>
      have hlen := length_of_head_concat open' hh
      have hnext : characters.next? (left ++ [b]) = some (c, []) := by
        rw [next?_characters, hh]
        simp only [hlen, List.drop_eq_nil_iff.2 (by simp : (left ++ [b]).length ≤ left.length + 1)]
      rw [characters.cut_of_some hnext, characters.cut_of_none rfl]
      exact ⟨rfl, Decoder.holds_start⟩
    · next n hh =>
      have hnext : characters.next? (left ++ [b]) = none := by rw [next?_characters, hh]
      rw [characters.cut_of_none hnext]
      exact ⟨rfl, hr, hnext, fun _ => ⟨n, hh⟩, fun _ => rfl⟩
    · next hc hi =>
      have hnext : characters.next? (left ++ [b]) = none := by
        rw [next?_characters]
        split
        · next c n hh => exact absurd hh (hc c n)
        · rfl
      rw [characters.cut_of_none hnext]
      exact ⟨rfl, hr, hnext, fun h => Bool.noConfusion h, fun ⟨n, hh⟩ => absurd hh (hi n)⟩

/-- A decoder that is fed gives out the characters that are complete. -/
theorem Decoder.Holds.feed {d : Decoder} {left : List UInt8} (h : d.Holds left)
    (bs : List UInt8) : (d.feed bs).2 = (characters.cut (left ++ bs)).1 ∧
      (d.feed bs).1.Holds (characters.cut (left ++ bs)).2 := by
  induction bs generalizing d left with
  | nil =>
    rw [List.append_nil, characters.cut_of_none h.next?]
    exact ⟨rfl, h⟩
  | cons b bs ih =>
    obtain ⟨hc, hd⟩ := h.step b
    obtain ⟨hcs, hds⟩ := ih hd
    rw [List.append_cons, characters.cut_append, ← hc, ← hcs]
    exact ⟨rfl, hds⟩

/-! ## What a text is spelled with -/

theorem isContinuation_of_toNat (h : b.toNat = v % 64 + 128) :
    isContinuation b = true ∧ payload b = v % 64 := by
  grind [isContinuation, payload, UInt8.le_iff_toNat_le]

theorem allowsSecond_of_toNat (hc : isContinuation b₁ = true)
    (h : (b₀.toNat = 0xE0 → 0xA0 ≤ b₁.toNat) ∧ (b₀.toNat = 0xED → b₁.toNat ≤ 0x9F) ∧
      (b₀.toNat = 0xF0 → 0x90 ≤ b₁.toNat) ∧ (b₀.toNat = 0xF4 → b₁.toNat ≤ 0x8F)) :
    allowsSecond b₀ b₁ = true := by
  have hc' := hc
  simp only [isContinuation, Bool.and_eq_true, decide_eq_true_eq, UInt8.le_iff_toNat_le,
    UInt8.reduceToNat] at hc'
  rw [allowsSecond]
  split_ifs with h₀ h₀ h₀ h₀
  iterate 4
    obtain rfl := eq_of_beq h₀
    simp only [UInt8.le_iff_toNat_le, UInt8.reduceToNat, Bool.and_eq_true, decide_eq_true_eq,
      Nat.reduceEqDiff, true_imp_iff] at h ⊢
    omega
  exact hc

theorem head_one (rest : List UInt8) (h₀ : b₀.toNat = v) (hv : v ≤ 0x7F) :
    head (b₀ :: rest) = .char (.ofNat v) 1 := by
  have e₀ : b₀ < 0x80 := by grind [UInt8.lt_iff_toNat_lt]
  simp only [head, e₀, h₀, if_true]

theorem head_two (rest : List UInt8) (h₀ : b₀.toNat = v / 64 % 32 + 192)
    (h₁ : b₁.toNat = v % 64 + 128) (hv : 0x7F < v ∧ v ≤ 0x7FF) :
    head (b₀ :: b₁ :: rest) = .char (.ofNat v) 2 := by
  have e₀ : ¬b₀ < 0x80 := by grind [UInt8.lt_iff_toNat_lt]
  have e₁ : (0xC2 ≤ b₀ && b₀ ≤ 0xDF) = true := by grind [UInt8.le_iff_toNat_le]
  obtain ⟨t₁, p₁⟩ := isContinuation_of_toNat h₁
  simp only [head, e₀, e₁, t₁, p₁, h₀, if_true, if_false]
  congr 2
  omega

theorem head_three (rest : List UInt8) (h₀ : b₀.toNat = v / 4096 % 16 + 224)
    (h₁ : b₁.toNat = v / 64 % 64 + 128) (h₂ : b₂.toNat = v % 64 + 128)
    (hv : 0x7FF < v ∧ v ≤ 0xFFFF) (hs : v < 0xD800 ∨ 0xDFFF < v) :
    head (b₀ :: b₁ :: b₂ :: rest) = .char (.ofNat v) 3 := by
  have e₀ : ¬b₀ < 0x80 := by grind [UInt8.lt_iff_toNat_lt]
  have e₁ : (0xC2 ≤ b₀ && b₀ ≤ 0xDF) = false := by grind [UInt8.le_iff_toNat_le]
  have e₂ : (0xE0 ≤ b₀ && b₀ ≤ 0xEF) = true := by grind [UInt8.le_iff_toNat_le]
  obtain ⟨t₁, p₁⟩ := isContinuation_of_toNat h₁
  obtain ⟨t₂, p₂⟩ := isContinuation_of_toNat h₂
  have a₁ : allowsSecond b₀ b₁ = true :=
    allowsSecond_of_toNat t₁ ⟨by omega, by omega, by omega, by omega⟩
  simp only [head, e₀, e₁, e₂, a₁, t₂, p₁, p₂, h₀, if_true, if_false, Bool.false_eq_true]
  congr 2
  omega

theorem head_four (rest : List UInt8) (h₀ : b₀.toNat = v / 262144 % 8 + 240)
    (h₁ : b₁.toNat = v / 4096 % 64 + 128) (h₂ : b₂.toNat = v / 64 % 64 + 128)
    (h₃ : b₃.toNat = v % 64 + 128) (hv : 0xFFFF < v ∧ v < 0x110000) :
    head (b₀ :: b₁ :: b₂ :: b₃ :: rest) = .char (.ofNat v) 4 := by
  have e₀ : ¬b₀ < 0x80 := by grind [UInt8.lt_iff_toNat_lt]
  have e₁ : (0xC2 ≤ b₀ && b₀ ≤ 0xDF) = false := by grind [UInt8.le_iff_toNat_le]
  have e₂ : (0xE0 ≤ b₀ && b₀ ≤ 0xEF) = false := by grind [UInt8.le_iff_toNat_le]
  have e₃ : (0xF0 ≤ b₀ && b₀ ≤ 0xF4) = true := by grind [UInt8.le_iff_toNat_le]
  obtain ⟨t₁, p₁⟩ := isContinuation_of_toNat h₁
  obtain ⟨t₂, p₂⟩ := isContinuation_of_toNat h₂
  obtain ⟨t₃, p₃⟩ := isContinuation_of_toNat h₃
  have a₁ : allowsSecond b₀ b₁ = true :=
    allowsSecond_of_toNat t₁ ⟨by omega, by omega, by omega, by omega⟩
  simp only [head, e₀, e₁, e₂, e₃, a₁, t₂, t₃, p₁, p₂, p₃, h₀, if_true, if_false,
    Bool.false_eq_true]
  congr 2
  omega

/-- The octets that spell a character begin with it. -/
theorem head_encodeChar (c : Char) (rest : List UInt8) :
    head (String.utf8EncodeChar c ++ rest) = .char c (String.utf8EncodeChar c).length := by
  have valid : c.val.toNat < 0xD800 ∨ 0xDFFF < c.val.toNat ∧ c.val.toNat < 0x110000 := c.valid
  have octet : ∀ n < 256, (UInt8.ofNat n).toNat = n := fun n hn => UInt8.toNat_ofNat_of_lt' hn
  suffices h : head (String.utf8EncodeChar c ++ rest) =
      .char (.ofNat c.val.toNat) (String.utf8EncodeChar c).length by
    rwa [show Char.ofNat c.val.toNat = c from Char.ofNat_toNat c] at h
  rw [String.utf8EncodeChar]
  generalize c.val.toNat = v at *
  split
  · exact head_one _ (octet _ (by omega)) (by omega)
  split
  · exact head_two _ (octet _ (by omega)) (octet _ (by omega)) (by omega)
  split
  · exact head_three _ (octet _ (by omega)) (octet _ (by omega)) (octet _ (by omega)) (by omega)
      (by omega)
  · exact head_four _ (octet _ (by omega)) (octet _ (by omega)) (octet _ (by omega))
      (octet _ (by omega)) (by omega)

/-- The octets that spell a text are cut into its characters, with nothing left. -/
theorem cut_encode (s : String) : characters.cut (encode s) = (s.toList, []) := by
  rw [encode]
  induction s.toList with
  | nil => exact characters.cut_of_none rfl
  | cons c cs ih =>
    have hnext : characters.next? ((c :: cs).flatMap String.utf8EncodeChar) =
        some (c, cs.flatMap String.utf8EncodeChar) := by
      rw [next?_characters, List.flatMap_cons, head_encodeChar]
      simp only [List.drop_left]
    rw [characters.cut_of_some hnext, ih]

/-- What a text is spelled with is that text. -/
theorem decode?_encode (s : String) : decode? (encode s) = some s := by
  obtain ⟨hcs, hd⟩ := Decoder.holds_start.feed (encode s)
  rw [List.nil_append, cut_encode] at hcs hd
  have hheld : (({} : Decoder).feed (encode s)).1.held = [] := List.reverse_eq_nil_iff.1 hd.held
  have hdec : decode? (encode s) = if (({} : Decoder).feed (encode s)).1.held.isEmpty then
      some (String.ofList (({} : Decoder).feed (encode s)).2) else none := rfl
  rw [hdec, hcs, hheld, List.isEmpty_nil, if_pos rfl, String.ofList_toList]

end Dialogue.Text.Utf8
