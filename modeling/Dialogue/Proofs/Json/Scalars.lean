import Dialogue.Json.Printer
import Dialogue.Proofs.Json.Grammar
import Mathlib.Data.List.TakeWhile

/-!
# Numbers and strings, read

The reader takes a number literal and a string off the front of the input part by part.
Each part is shown to be read exactly if the grammar has it there: what is spelled is
read up to its end (`.._append`), and what is read is spelled (`of_..`).

* `literal?_append`, `of_literal?`: number literals, if nothing follows that would go on
  with them (`Ended`);
* `text?_append`, `of_text?`: strings. In between stand the pieces that the reader
  collects, halves of surrogate pairs among them (`SpellsPieces`);
* `spellsString_quoted`: every text has a string that spells it.
-/

namespace Dialogue.Json

open Dialogue.Json.Tree

variable {text rest input : List Symbol}

/-! ## Spaces -/

theorem skipSpaces_append (h : Spaces text) (rest : List Symbol) :
    skipSpaces (text ++ rest) = skipSpaces rest :=
  List.dropWhile_append_of_pos h

/-- Spaces in front and what follows them. -/
theorem exists_spaces (input : List Symbol) :
    ∃ gap, Spaces gap ∧ input = gap ++ skipSpaces input :=
  ⟨input.takeWhile isSpace, fun _ h => List.mem_takeWhile_imp h,
    List.takeWhile_append_dropWhile.symm⟩

/-! ## Numbers -/

/-- What may follow a number: nothing that would go on with it. -/
def Ended (rest : List Symbol) : Prop :=
  ∀ s ∈ rest.head?, digit? s = none ∧ s ≠ some '.' ∧ s ≠ some 'e' ∧ s ≠ some 'E'

theorem digits_append {ds : List Nat} (h : text.map digit? = ds.map some)
    (hr : ∀ s ∈ rest.head?, digit? s = none) : digits (text ++ rest) = (ds, rest) := by
  induction text generalizing ds with
  | nil =>
    obtain rfl := List.map_eq_nil_iff.1 h.symm
    cases rest with
    | nil => rfl
    | cons s rest => simp only [List.nil_append, digits, hr s rfl]
  | cons s text ih =>
    cases ds with
    | nil => cases h
    | cons d ds =>
      rw [List.map_cons, List.map_cons, List.cons.injEq] at h
      simp only [List.cons_append, digits, h.1, ih h.2]

/-- The digits in front, after which comes no further digit. -/
theorem digits_eq (input : List Symbol) :
    ∃ text, input = text ++ (digits input).2 ∧ text.map digit? = (digits input).1.map some := by
  induction input with
  | nil => exact ⟨[], rfl, rfl⟩
  | cons s input ih =>
    obtain ⟨text, hi, hd⟩ := ih
    rw [digits]
    cases hs : digit? s with
    | none => exact ⟨[], rfl, rfl⟩
    | some d => exact ⟨s :: text, by rw [List.cons_append, ← hi], by simp [hs, hd]⟩

/-- The fraction in front and what follows it. -/
def fraction? : List Symbol → Option (Option (List Nat) × List Symbol)
  | some '.' :: rest =>
    if (digits rest).1.isEmpty then none else some (some (digits rest).1, (digits rest).2)
  | rest => some (none, rest)

/-- The sign of an exponent in front and what follows it. -/
def sign : List Symbol → Bool × List Symbol
  | some '+' :: rest => (true, rest)
  | some '-' :: rest => (false, rest)
  | rest => (true, rest)

/-- The exponent in front and what follows it. -/
def exponent? : List Symbol → Option (Option (Bool × List Nat) × List Symbol)
  | some c :: rest =>
    if c = 'e' ∨ c = 'E' then
      if (digits (sign rest).2).1.isEmpty then none
      else some (some ((sign rest).1, (digits (sign rest).2).1), (digits (sign rest).2).2)
    else some (none, some c :: rest)
  | rest => some (none, rest)

/-- A literal is read part by part. -/
theorem literal?_eq (negative : Bool) (input : List Symbol) :
    literal? negative input =
      if (digits input).1 = [] ∨ (digits input).1.head? = some 0 ∧ (digits input).1.length ≠ 1 then
        none
      else (fraction? (digits input).2).bind fun (fraction, rest) =>
        (exponent? rest).map fun (exponent, rest) =>
          (⟨negative, (digits input).1, fraction, exponent⟩, rest) := by
  unfold literal? fraction? exponent? sign
  grind

theorem SpellsDigits.append {ds : List Nat} (h : SpellsDigits ds text)
    (hr : ∀ s ∈ rest.head?, digit? s = none) : digits (text ++ rest) = (ds, rest) :=
  digits_append h.values hr

theorem of_digits {ds : List Nat} (h : digits input = (ds, rest)) (hne : ds ≠ []) :
    ∃ text, input = text ++ rest ∧ SpellsDigits ds text := by
  obtain ⟨text, hi, hd⟩ := digits_eq input
  rw [h] at hi hd
  exact ⟨text, hi, hd, hne⟩

theorem fraction?_append {fraction : Option (List Nat)} (h : SpellsFraction fraction text)
    (hr : ∀ s ∈ rest.head?, digit? s = none ∧ s ≠ some '.') :
    fraction? (text ++ rest) = some (fraction, rest) := by
  cases h with
  | none =>
    rw [List.nil_append]
    unfold fraction?
    split
    · exact absurd rfl (hr _ rfl).2
    · rfl
  | some hd =>
    rw [List.cons_append, fraction?, hd.append fun s hs => (hr s hs).1,
      if_neg (mt List.isEmpty_iff.1 hd.ne_nil)]

theorem of_fraction? {fraction : Option (List Nat)} (h : fraction? input = some (fraction, rest)) :
    ∃ text, input = text ++ rest ∧ SpellsFraction fraction text := by
  unfold fraction? at h
  split at h
  · split_ifs at h with hne
    cases h
    obtain ⟨text, hi, hd⟩ := of_digits rfl (mt List.isEmpty_iff.2 hne)
    exact ⟨_, congrArg _ hi, .some hd⟩
  · cases h
    exact ⟨[], rfl, .none⟩

theorem SpellsDigits.exists_cons {ds : List Nat} (h : SpellsDigits ds text) :
    ∃ s more, text = s :: more ∧ digit? s ≠ none := by
  obtain ⟨hv, hne⟩ := h
  cases text with
  | nil => exact absurd (List.map_eq_nil_iff.1 hv.symm) hne
  | cons s more =>
    obtain ⟨d, ds, rfl⟩ := List.exists_cons_of_ne_nil hne
    exact ⟨s, more, rfl, by rw [(List.cons.inj hv).1]; exact Option.some_ne_none d⟩

/-- A sign is followed by a digit, which is none. -/
theorem sign_append {plus : Bool} {ds : List Nat} {mark : List Symbol} (h : SpellsSign plus mark)
    (hd : SpellsDigits ds text) (rest : List Symbol) :
    sign (mark ++ (text ++ rest)) = (plus, text ++ rest) := by
  cases h with
  | plus => rfl
  | minus => rfl
  | unsigned =>
    obtain ⟨s, more, rfl, hs⟩ := hd.exists_cons
    rw [List.nil_append, List.cons_append]
    unfold sign
    split
    · next e => cases e; exact absurd rfl hs
    · next e => cases e; exact absurd rfl hs
    · rfl

theorem of_sign (input : List Symbol) :
    ∃ text, input = text ++ (sign input).2 ∧ SpellsSign (sign input).1 text := by
  unfold sign
  split
  · exact ⟨_, rfl, .plus⟩
  · exact ⟨_, rfl, .minus⟩
  · exact ⟨[], rfl, .unsigned⟩

theorem exponent?_append {exponent : Option (Bool × List Nat)} (h : SpellsExponent exponent text)
    (hr : Ended rest) : exponent? (text ++ rest) = some (exponent, rest) := by
  cases h with
  | none =>
    unfold exponent? Ended at *
    grind
  | some he hs hd =>
    rw [List.cons_append, List.append_assoc, exponent?, if_pos he, sign_append hs hd,
      hd.append fun s hs => (hr s hs).1, if_neg (mt List.isEmpty_iff.1 hd.ne_nil)]

theorem of_exponent? {exponent : Option (Bool × List Nat)}
    (h : exponent? input = some (exponent, rest)) :
    ∃ text, input = text ++ rest ∧ SpellsExponent exponent text := by
  unfold exponent? at h
  split at h
  · next c after =>
    split_ifs at h with he hne
    · cases h
      obtain ⟨mark, hm, hs⟩ := of_sign after
      obtain ⟨text, hi, hd⟩ := of_digits rfl (mt List.isEmpty_iff.2 hne)
      refine ⟨_, ?_, .some he hs hd⟩
      rw [List.cons_append, List.append_assoc, ← hi, ← hm]
    · cases h
      exact ⟨[], rfl, .none⟩
  · cases h
    exact ⟨[], rfl, .none⟩

theorem literal?_append {l : Literal} (h : SpellsUnsigned l text) (hr : Ended rest) :
    literal? l.negative (text ++ rest) = some (l, rest) := by
  obtain @⟨negative, whole, fraction, exponent, a, b, c, hw, hz, hf, he⟩ := h
  -- Each part is read up to the next, which does not go on with it.
  have hc : ∀ s ∈ (c ++ rest).head?, digit? s = none ∧ s ≠ some '.' := by
    cases he with
    | none => exact fun s hs => ⟨(hr s hs).1, (hr s hs).2.1⟩
    | some he _ _ =>
      rintro s ⟨⟩
      obtain rfl | rfl := he <;> decide
  have hb : ∀ s ∈ (b ++ (c ++ rest)).head?, digit? s = none := by
    cases hf with
    | none => exact fun s hs => (hc s hs).1
    | some _ =>
      rintro s ⟨⟩
      decide
  rw [literal?_eq, List.append_assoc, List.append_assoc, hw.append hb, if_neg,
    fraction?_append hf hc]
  · change Option.map _ (exponent? (c ++ rest)) = _
    rw [exponent?_append he hr]
    rfl
  · rintro (h | ⟨h, hl⟩)
    · exact hw.ne_nil h
    · exact hl (hz h)

theorem of_literal? {negative : Bool} {l : Literal}
    (h : literal? negative input = some (l, rest)) :
    l.negative = negative ∧ ∃ text, input = text ++ rest ∧ SpellsUnsigned l text := by
  rw [literal?_eq] at h
  split_ifs at h with hn
  obtain ⟨⟨fraction, rest'⟩, hf, h⟩ := Option.bind_eq_some_iff.1 h
  obtain ⟨⟨exponent, rest''⟩, he, h⟩ := Option.map_eq_some_iff.1 h
  cases h
  obtain ⟨a, ha, hw⟩ := of_digits (rfl : digits input = _) (fun h => hn (.inl h))
  obtain ⟨b, hb, hf⟩ := of_fraction? hf
  obtain ⟨c, hc, he⟩ := of_exponent? he
  refine ⟨rfl, a ++ (b ++ c), ?_, .intro hw (fun h => ?_) hf he⟩
  · rw [List.append_assoc, List.append_assoc, ← hc, ← hb, ← ha]
  · exact not_not.1 fun hl => hn (.inr ⟨h, hl⟩)

/-! ## Strings -/

theorem escaped?_eq_some_iff {e c : Char} : escaped? e = some c ↔ (e, c) ∈ shortEscapes := by
  simp only [shortEscapes, List.mem_cons, Prod.mk.injEq, List.not_mem_nil, or_false]
  refine ⟨fun h => ?_, ?_⟩
  · unfold escaped? at h
    split_ifs at h <;> grind
  · rintro (h | h | h | h | h | h | h | h) <;> obtain ⟨rfl, rfl⟩ := h <;> rfl

/-- How pieces of a string stand in its text. -/
inductive SpellsPieces : List Piece → List Symbol → Prop
  | nil : SpellsPieces [] []
  | plain {c : Char} {ps : List Piece} {text : List Symbol} :
      c ≠ '"' → c ≠ '\\' → 0x20 ≤ c.toNat → SpellsPieces ps text →
      SpellsPieces (.char c :: ps) (some c :: text)
  | short {e c : Char} {ps : List Piece} {text : List Symbol} :
      escaped? e = some c → SpellsPieces ps text →
      SpellsPieces (.char c :: ps) (some '\\' :: some e :: text)
  | unit {a b c d : Symbol} {unit : Nat} {ps : List Piece} {text : List Symbol} :
      hex4? a b c d = some unit → isSurrogate unit = false → SpellsPieces ps text →
      SpellsPieces (.char (Char.ofNat unit) :: ps)
        (some '\\' :: some 'u' :: a :: b :: c :: d :: text)
  | half {a b c d : Symbol} {unit : Nat} {ps : List Piece} {text : List Symbol} :
      hex4? a b c d = some unit → isSurrogate unit = true → SpellsPieces ps text →
      SpellsPieces (.surrogate unit :: ps)
        (some '\\' :: some 'u' :: a :: b :: c :: d :: text)
  | broken {ps : List Piece} {text : List Symbol} : SpellsPieces ps text →
      SpellsPieces (.broken :: ps) (none :: text)

theorem pieces?_append {ps : List Piece} (h : SpellsPieces ps text) (acc : List Piece) :
    pieces? acc (text ++ some '"' :: rest) = some (ps.reverse ++ acc, rest) := by
  induction h generalizing acc with
  | nil => rfl
  | plain hq hb hc _ ih =>
    rw [List.cons_append, List.reverse_cons, List.append_assoc]
    unfold pieces?
    split <;> grind
  | short he _ ih =>
    rw [List.cons_append, List.reverse_cons, List.append_assoc]
    unfold pieces?
    split <;> grind [escaped?]
  | unit hu hs _ ih | half hu hs _ ih =>
    rw [List.cons_append, List.reverse_cons, List.append_assoc]
    unfold pieces?
    split <;> grind
  | broken _ ih =>
    rw [List.cons_append, List.reverse_cons, List.append_assoc]
    exact ih _

/-- The text of one piece more. -/
theorem exists_pieces_cons {acc ps : List Piece} {p : Piece} (front : List Symbol)
    (hp : ∀ {new text}, SpellsPieces new text → SpellsPieces (p :: new) (front ++ text))
    (h : ∃ new text, ps = new.reverse ++ p :: acc ∧ input = text ++ some '"' :: rest ∧
      SpellsPieces new text) :
    ∃ new text, ps = new.reverse ++ acc ∧ front ++ input = text ++ some '"' :: rest ∧
      SpellsPieces new text := by
  obtain ⟨new, text, rfl, rfl, hs⟩ := h
  exact ⟨p :: new, front ++ text, by simp, by simp, hp hs⟩

theorem of_pieces? {acc ps : List Piece} (h : pieces? acc input = some (ps, rest)) :
    ∃ new text, ps = new.reverse ++ acc ∧ input = text ++ some '"' :: rest ∧
      SpellsPieces new text := by
  fun_induction pieces? acc input with
  | case1 | case3 | case5 | case7 | case8 => cases h
  | case2 acc after =>
    cases h
    exact ⟨[], [], rfl, rfl, .nil⟩
  | case4 acc a b c d after unit hu ih =>
    have hp := ih h
    cases hs : isSurrogate unit with
    | true =>
      rw [hs, if_pos rfl] at hp
      exact exists_pieces_cons [some '\\', some 'u', a, b, c, d] (.half hu hs) hp
    | false =>
      rw [hs, if_neg Bool.false_ne_true] at hp
      exact exists_pieces_cons [some '\\', some 'u', a, b, c, d] (.unit hu hs) hp
  | case6 acc e after _ c he ih =>
    exact exists_pieces_cons [some '\\', some e] (.short he) (ih h)
  | case9 acc c after hq _ _ hb hc ih =>
    exact exists_pieces_cons [some c] (.plain hq hb (Nat.le_of_not_lt hc)) (ih h)
  | case10 acc after ih => exact exists_pieces_cons [none] .broken (ih h)

theorem hex4?_eq_some_iff {a b c d : Symbol} {unit : Nat} : hex4? a b c d = some unit ↔
    ∃ a' b' c' d', a = some a' ∧ b = some b' ∧ c = some c' ∧ d = some d' ∧
      Text.Hex.number? 0 [a', b', c', d'] = some unit := by
  rcases a with _ | a <;> rcases b with _ | b <;> rcases c with _ | c <;> rcases d with _ | d <;>
    simp [hex4?]

theorem value?_lt {c : Char} {n : Nat} (h : Text.Hex.value? c = some n) : n < 16 := by
  unfold Text.Hex.value? at h
  grind [Char.le_def, UInt32.le_iff_toNat_le, Char.toNat]

theorem exists_hexDigit {read n : Nat} {c : Char} {cs : List Char}
    (h : Text.Hex.number? read (c :: cs) = some n) :
    ∃ d < 16, Text.Hex.number? (read * 16 + d) cs = some n := by
  rw [Text.Hex.number?] at h
  split at h
  · next d hd => exact ⟨d, value?_lt hd, h⟩
  · cases h

/-- Four digits spell a number of 16 bits. -/
theorem number?_lt {a b c d : Char} {n : Nat} (h : Text.Hex.number? 0 [a, b, c, d] = some n) :
    n < 0x10000 := by
  obtain ⟨_, _, h⟩ := exists_hexDigit h
  obtain ⟨_, _, h⟩ := exists_hexDigit h
  obtain ⟨_, _, h⟩ := exists_hexDigit h
  obtain ⟨_, _, h⟩ := exists_hexDigit h
  cases h
  omega

theorem toNat_ofNat {n : Nat} (h : n.isValidChar) : (Char.ofNat n).toNat = n := by
  rw [Char.ofNat, dif_pos h]
  rfl

/-- A unit that is no half of a pair is the number of a character. -/
theorem toNat_ofNat_unit {a b c d : Char} {unit : Nat}
    (h : Text.Hex.number? 0 [a, b, c, d] = some unit) (hs : isSurrogate unit = false) :
    (Char.ofNat unit).toNat = unit := by
  have hlt := number?_lt h
  simp only [isSurrogate, Bool.and_eq_false_iff, decide_eq_false_iff_not] at hs
  refine toNat_ofNat ?_
  rw [Nat.isValidChar]
  omega

theorem isSurrogate_toNat (c : Char) : isSurrogate c.toNat = false := by
  have hv : c.toNat < 0xD800 ∨ 0xDFFF < c.toNat ∧ c.toNat < 0x110000 := c.valid
  simp only [isSurrogate, Bool.and_eq_false_iff, decide_eq_false_iff_not]
  omega

theorem joinSurrogates?_eq_some_iff {high low : Nat} {c : Char} :
    joinSurrogates? high low = some c ↔
      (0xD800 ≤ high ∧ high ≤ 0xDBFF ∧ 0xDC00 ≤ low ∧ low ≤ 0xDFFF) ∧
        c.toNat = 0x10000 + (high - 0xD800) * 0x400 + (low - 0xDC00) := by
  rw [joinSurrogates?]
  split_ifs with h
  · have hv : (0x10000 + (high - 0xD800) * 0x400 + (low - 0xDC00)).isValidChar := by
      rw [Nat.isValidChar]
      omega
    refine ⟨fun hc => ⟨h, ?_⟩, fun hc => ?_⟩
    · rw [← Option.some.inj hc, toNat_ofNat hv]
    · rw [← hc.2, Char.ofNat_toNat]
  · exact ⟨fun hc => (nomatch hc), fun hc => absurd hc.1 h⟩

/-- What pieces say, if they make a text. -/
theorem SpellsPieces.chars {ps : List Piece} (h : SpellsPieces ps text) {cs : List Char}
    (hc : assemble? ps = some cs) : SpellsChars cs text := by
  fun_induction assemble? ps generalizing cs text with
  | case1 =>
    cases hc
    cases h
    exact .nil
  | case2 c ps ih =>
    obtain ⟨cs, hcs, rfl⟩ := Option.map_eq_some_iff.1 hc
    cases h with
    | plain hq hb hn h => exact .plain hq hb hn (ih h hcs)
    | short he h => exact .short (escaped?_eq_some_iff.1 he) (ih h hcs)
    | unit hu hs h =>
      obtain ⟨_, _, _, _, rfl, rfl, rfl, rfl, hn⟩ := hex4?_eq_some_iff.1 hu
      exact .unit (by rw [toNat_ofNat_unit hn hs]; exact hn) (ih h hcs)
  | case3 high low ps ih =>
    obtain ⟨c, hj, hc⟩ := Option.bind_eq_some_iff.1 hc
    obtain ⟨cs, hcs, hc⟩ := Option.bind_eq_some_iff.1 hc
    cases hc
    obtain ⟨⟨hh, hh', hl, hl'⟩, hc⟩ := joinSurrogates?_eq_some_iff.1 hj
    cases h with
    | half hu _ h =>
      cases h with
      | half hv _ h =>
        obtain ⟨_, _, _, _, rfl, rfl, rfl, rfl, hu⟩ := hex4?_eq_some_iff.1 hu
        obtain ⟨_, _, _, _, rfl, rfl, rfl, rfl, hv⟩ := hex4?_eq_some_iff.1 hv
        exact .pair hu hh hh' hv hl hl' hc (ih h hcs)
  | case4 | case5 => cases hc

/-- What is spelled stands there in pieces. -/
theorem SpellsChars.pieces {cs : List Char} (h : SpellsChars cs text) :
    ∃ ps, SpellsPieces ps text ∧ assemble? ps = some cs := by
  have hex {a b c d : Char} {unit : Nat} (hu : Text.Hex.number? 0 [a, b, c, d] = some unit) :
      hex4? a b c d = some unit :=
    hex4?_eq_some_iff.2 ⟨a, b, c, d, rfl, rfl, rfl, rfl, hu⟩
  induction h with
  | nil => exact ⟨[], .nil, rfl⟩
  | @plain c cs text hq hb hn _ ih =>
    obtain ⟨ps, hp, ha⟩ := ih
    exact ⟨.char c :: ps, .plain hq hb hn hp, by rw [assemble?, ha]; rfl⟩
  | @short e c cs text he _ ih =>
    obtain ⟨ps, hp, ha⟩ := ih
    exact ⟨.char c :: ps, .short (escaped?_eq_some_iff.2 he) hp, by rw [assemble?, ha]; rfl⟩
  | @unit _ _ _ _ c cs text hu _ ih =>
    obtain ⟨ps, hp, ha⟩ := ih
    refine ⟨_, .unit (hex hu) (isSurrogate_toNat c) hp, ?_⟩
    rw [Char.ofNat_toNat, assemble?, ha]
    rfl
  | @pair _ _ _ _ _ _ _ _ c high low cs text hu hh hh' hv hl hl' hc _ ih =>
    obtain ⟨ps, hp, ha⟩ := ih
    have hj := joinSurrogates?_eq_some_iff.2 ⟨⟨hh, hh', hl, hl'⟩, hc⟩
    refine ⟨_, .half (hex hu) ?_ (.half (hex hv) ?_ hp), ?_⟩
    · simp only [isSurrogate, Bool.and_eq_true, decide_eq_true_eq]
      omega
    · simp only [isSurrogate, Bool.and_eq_true, decide_eq_true_eq]
      omega
    · rw [assemble?, hj, ha]
      rfl

/-- A string is read up to its closing quote. -/
theorem text?_append {s : String} (h : SpellsChars s.toList text) :
    text? (text ++ some '"' :: rest) = some (some s, rest) := by
  obtain ⟨ps, hp, ha⟩ := h.pieces
  simp only [text?, pieces?_append hp, List.append_nil, Option.map_some, List.reverse_reverse, ha,
    String.ofList_toList]

theorem of_text? {s : String} (h : text? input = some (some s, rest)) :
    ∃ text, input = text ++ some '"' :: rest ∧ SpellsChars s.toList text := by
  obtain ⟨⟨ps, rest'⟩, hp, he⟩ := Option.map_eq_some_iff.1 h
  obtain ⟨new, text, rfl, rfl, hs⟩ := of_pieces? hp
  simp only [Prod.mk.injEq, List.append_nil, List.reverse_reverse, Option.map_eq_some_iff] at he
  obtain ⟨⟨cs, hc, rfl⟩, rfl⟩ := he
  exact ⟨text, rfl, by rw [String.toList_ofList]; exact hs.chars hc⟩

/-! ## Strings, written -/

theorem value?_lower : ∀ n < 16, Text.Hex.value? (Text.Hex.lower n) = some n := by
  decide

/-- An escaped character is read as the character. -/
theorem SpellsChars.escapeChar {cs : List Char} (c : Char) (h : SpellsChars cs text) :
    SpellsChars (c :: cs) ((Json.escapeChar c).map some ++ text) := by
  rw [Json.escapeChar]
  split_ifs with hq hb h₈ hc hn hr ht hcontrol
  · exact .short (by rw [hq]; decide) h
  · exact .short (by rw [hb]; decide) h
  · exact .short (by rw [h₈]; decide) h
  · exact .short (by rw [hc]; decide) h
  · exact .short (by rw [hn]; decide) h
  · exact .short (by rw [hr]; decide) h
  · exact .short (by rw [ht]; decide) h
  · refine .unit ?_ h
    have h₁ := value?_lower (c.toNat / 16) (by omega)
    have h₂ := value?_lower (c.toNat % 16) (by omega)
    have h₀ : Text.Hex.value? '0' = some 0 := rfl
    simp only [Text.Hex.number?, h₀, h₁, h₂]
    congr 1
    omega
  · exact .plain hq hb (Nat.le_of_not_lt hcontrol) h

/-- A text between quotes is a string that spells it. -/
theorem spellsString_quoted (s : String) : SpellsString s ((quoted s).map some) := by
  have hchars (cs : List Char) : SpellsChars cs ((cs.flatMap Json.escapeChar).map some) := by
    induction cs with
    | nil => exact .nil
    | cons c cs ih =>
      rw [List.flatMap_cons, List.map_append]
      exact ih.escapeChar c
  rw [quoted, List.map_cons, List.map_append]
  exact .intro (hchars s.toList)

end Dialogue.Json
