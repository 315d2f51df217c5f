import Dialogue.Proofs.Text.Utf8
import Dialogue.Text.Percent

/-!
# Percent-encoded texts

An encoded text is plain: it is made of letters, digits, a few signs and `%`, whatever the text
was. And it still says what the text was, octet by octet.

* `isPlain_of_mem_encode`: encoded texts are plain;
* `decoded?_encode`: the text is read back from an encoded one;
* `encode_injective`: so different texts are encoded differently.
-/

namespace Dialogue.Text

/-- A digit in upper case is read as what it was written for. -/
theorem Hex.value?_upper : ∀ n < 16, value? (upper n) = some n := by decide

namespace Percent

variable {c : Char} {b : UInt8}

/-! ## What an encoded text is made of -/

/-- Whether a character may be found in an encoded text. -/
def isPlain (c : Char) : Bool :=
  c.isAlphanum || ['-', '_', '.', '~', '%'].contains c

/-- The octets that stand for themselves are plain characters other than `%`. -/
theorem unreserved_ofNat : ∀ n < 256, isUnreserved (.ofNat n) = true →
    isPlain (.ofNat n) = true ∧ Char.ofNat n ≠ '%' ∧
      String.utf8EncodeChar (.ofNat n) = [.ofNat n] := by
  decide +kernel

theorem isPlain_upper : ∀ n < 16, isPlain (Hex.upper n) = true := by decide

theorem unreserved_toNat (h : isUnreserved b = true) :
    isPlain (.ofNat b.toNat) = true ∧ Char.ofNat b.toNat ≠ '%' ∧
      String.utf8EncodeChar (.ofNat b.toNat) = [b] := by
  have hb : UInt8.ofNat b.toNat = b := UInt8.ofNat_toNat
  have hu := unreserved_ofNat b.toNat b.toNat_lt
  rw [hb] at hu
  exact hu h

theorem isPlain_of_mem_encodeByte (h : c ∈ encodeByte b) : isPlain c = true := by
  have hb : b.toNat < 256 := b.toNat_lt
  rw [encodeByte] at h
  split at h
  · next hu =>
    obtain rfl := List.mem_singleton.1 h
    exact (unreserved_toNat hu).1
  · simp only [escape, List.mem_cons, List.not_mem_nil, or_false] at h
    rcases h with rfl | rfl | rfl
    · decide
    · exact isPlain_upper _ (by omega)
    · exact isPlain_upper _ (by omega)

theorem isPlain_of_mem_encode {s : String} (h : c ∈ (encode s).toList) : isPlain c = true := by
  rw [encode, String.toList_ofList] at h
  obtain ⟨b, -, hc⟩ := List.mem_flatMap.1 h
  exact isPlain_of_mem_encodeByte hc

/-! ## Reading it back -/

theorem decode?_cons_of_ne (h : c ≠ '%') (rest : List Char) :
    decode? (c :: rest) = (decode? rest).map (String.utf8EncodeChar c ++ ·) := by
  rw [decode?]
  · rw [if_neg h]
    cases decode? rest <;> rfl
  · rintro _ _ _ rfl
    exact absurd rfl h

theorem decode?_escape (b : UInt8) (rest : List Char) :
    decode? (escape b ++ rest) = (decode? rest).map (b :: ·) := by
  have hb : b.toNat < 256 := b.toNat_lt
  have hh : Hex.value? (Hex.upper (b.toNat / 16)) = some (b.toNat / 16) :=
    Hex.value?_upper _ (by omega)
  have hl : Hex.value? (Hex.upper (b.toNat % 16)) = some (b.toNat % 16) :=
    Hex.value?_upper _ (by omega)
  have hv : UInt8.ofNat (b.toNat / 16 * 16 + b.toNat % 16) = b := by
    rw [Nat.div_add_mod', UInt8.ofNat_toNat]
  rw [escape, List.cons_append, List.cons_append, List.cons_append, List.nil_append, decode?, hh,
    hl]
  cases decode? rest with
  | none => rfl
  | some bytes => exact congrArg (fun b => some (b :: bytes)) hv

/-- Each octet is read back. -/
theorem decode?_encodeByte (b : UInt8) (rest : List Char) :
    decode? (encodeByte b ++ rest) = (decode? rest).map (b :: ·) := by
  rw [encodeByte]
  split
  · next hu =>
    -- It is no `%`, so it is read as the octet that it was written for.
    obtain ⟨-, hn, he⟩ := unreserved_toNat hu
    rw [List.cons_append, List.nil_append, decode?_cons_of_ne hn, he]
    rfl
  · exact decode?_escape b rest

theorem decode?_flatMap (bs : List UInt8) : decode? (bs.flatMap encodeByte) = some bs := by
  induction bs with
  | nil => rfl
  | cons b bs ih =>
    rw [List.flatMap_cons, decode?_encodeByte, ih]
    rfl

/-- The text that an encoded one stands for. -/
def decoded? (cs : List Char) : Option String :=
  (decode? cs).bind Utf8.decode?

/-- A text is read back from the encoded one. -/
theorem decoded?_encode (s : String) : decoded? (encode s).toList = some s := by
  rw [decoded?, encode, String.toList_ofList, decode?_flatMap, Option.bind_some,
    Utf8.decode?_encode]

theorem encode_injective : Function.Injective encode := by
  intro s s' h
  have hs := decoded?_encode s
  rw [h, decoded?_encode] at hs
  exact (Option.some.inj hs).symm

end Percent

end Dialogue.Text
