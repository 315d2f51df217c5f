import Dialogue.Proofs.Json.Scalars

/-!
# Values, read

What is spelled is read up to its end, with as much fuel as twice its length
(`reads_spells`). The induction is on the levels, and for each level on the items or
members: a value begins with no space and not like an end (`Begins`), and where it ends the
reader sees the spaces, the comma or the bracket that follow it.
-/

namespace Dialogue.Json

open Dialogue.Json.Tree

variable {P : Tree → List Symbol → Prop} {t : Tree} {ts : List Tree}
  {ms : List (Option String × Tree)} {text rest : List Symbol} {fuel level levels : Nat}

/-! ## Beginnings and ends -/

/-- How a value begins: with no space, and not like the end of an array or object. -/
def Begins (text : List Symbol) : Prop :=
  ∃ s more, text = s :: more ∧ isSpace s = false ∧ s ≠ some ']' ∧ s ≠ some '}'

theorem begins_of_digit {s : Symbol} (h : digit? s ≠ none) (more : List Symbol) :
    Begins (s :: more) := by
  refine ⟨s, more, rfl, ?_, ?_, ?_⟩
  · rw [Bool.eq_false_iff]
    intro hs
    simp only [isSpace, Bool.or_eq_true, beq_iff_eq] at hs
    obtain ((rfl | rfl) | rfl) | rfl := hs <;> exact h rfl
  · rintro rfl
    exact h rfl
  · rintro rfl
    exact h rfl

theorem SpellsUnsigned.exists_cons {l : Literal} (h : SpellsUnsigned l text) :
    ∃ s more, text = s :: more ∧ digit? s ≠ none := by
  obtain @⟨_, _, _, _, a, b, c, hw, _, _, _⟩ := h
  obtain ⟨s, more, rfl, hs⟩ := hw.exists_cons
  exact ⟨s, more ++ (b ++ c), rfl, hs⟩

theorem SpellsScalar.begins (h : SpellsScalar t text) : Begins text := by
  cases h with
  | null => exact ⟨_, _, rfl, rfl, by decide, by decide⟩
  | true => exact ⟨_, _, rfl, rfl, by decide, by decide⟩
  | false => exact ⟨_, _, rfl, rfl, by decide, by decide⟩
  | string h =>
    obtain ⟨_⟩ := h
    exact ⟨_, _, rfl, rfl, by decide, by decide⟩
  | number h _ =>
    cases h with
    | negative _ _ => exact ⟨_, _, rfl, rfl, by decide, by decide⟩
    | positive _ h =>
      obtain ⟨s, more, rfl, hs⟩ := h.exists_cons
      exact begins_of_digit hs more

theorem SpellsValue.begins (h : SpellsValue P t text) : Begins text := by
  cases h with
  | scalar h => exact h.begins
  | emptyArray _ | array _ | emptyObject _ | object _ =>
    exact ⟨_, _, rfl, rfl, by decide, by decide⟩

theorem Spells.begins (h : Spells levels t text) : Begins text := by
  cases levels with
  | zero => exact SpellsScalar.begins h
  | succ levels => exact SpellsValue.begins h

theorem Begins.ne_bracket (h : Begins text) (more : List Symbol) : text ≠ some ']' :: more := by
  obtain ⟨s, _, rfl, _, hs, _⟩ := h
  exact fun e => hs (List.cons.inj e).1

theorem Begins.ne_brace (h : Begins text) (more : List Symbol) : text ≠ some '}' :: more := by
  obtain ⟨s, _, rfl, _, _, hs⟩ := h
  exact fun e => hs (List.cons.inj e).1

/-- Where something is to be read there is fuel for it. -/
theorem exists_fuel (h : Begins text) (hf : 2 * text.length ≤ fuel) :
    ∃ fuel', fuel = fuel' + 1 := by
  obtain ⟨s, more, rfl, _⟩ := h
  exact Nat.exists_eq_succ_of_ne_zero (by rw [List.length_cons] at hf; omega)

theorem skipSpaces_cons {s : Symbol} (h : isSpace s = false) (rest : List Symbol) :
    skipSpaces (s :: rest) = s :: rest :=
  List.dropWhile_cons_of_neg (by rw [h]; exact Bool.false_ne_true)

theorem skipSpaces_of_begins (h : Begins text) (rest : List Symbol) :
    skipSpaces (text ++ rest) = text ++ rest := by
  obtain ⟨s, more, rfl, hs, _, _⟩ := h
  exact skipSpaces_cons hs _

theorem ended_nil : Ended [] := by
  rintro _ ⟨⟩

theorem ended_cons {s : Symbol}
    (h : digit? s = none ∧ s ≠ some '.' ∧ s ≠ some 'e' ∧ s ≠ some 'E') (rest : List Symbol) :
    Ended (s :: rest) := by
  rintro _ ⟨⟩
  exact h

/-- A number ends where spaces begin, or else what follows them. -/
theorem ended_append (hs : Spaces text) (hr : Ended rest) : Ended (text ++ rest) := by
  cases text with
  | nil => exact hr
  | cons s more =>
    have hspace := hs s List.mem_cons_self
    simp only [isSpace, Bool.or_eq_true, beq_iff_eq] at hspace
    refine ended_cons ?_ _
    obtain ((rfl | rfl) | rfl) | rfl := hspace <;> decide

/-! ## What is spelled is read -/

theorem value_of_digit {s : Symbol} (h : digit? s ≠ none) (fuel level : Nat)
    (more : List Symbol) : value (fuel + 1) level (s :: more) =
      (literal? false (s :: more)).map fun (l, rest) => (ofLiteral l, rest) := by
  -- A digit is none of the characters that other values begin with.
  have hn (c : Char) (hc : digit? c = none) (rest : List Symbol) :
      s :: more = some c :: rest → False := by
    rintro ⟨⟩
    exact h hc
  rw [value]
  all_goals exact hn _ rfl

theorem value_scalar (h : SpellsScalar t text) (hr : Ended rest) :
    value (fuel + 1) level (text ++ rest) = some (t, rest) := by
  have hlit {l : Literal} {n : Number} (hn : l.number? = some n) : ofLiteral l = .number n := by
    rw [ofLiteral, hn]
  cases h with
  | null => rfl
  | true => rfl
  | false => rfl
  | string h =>
    obtain ⟨h⟩ := h
    rw [List.cons_append, List.append_assoc, value]
    change Option.map _ (text? (_ ++ some '"' :: rest)) = _
    rw [text?_append h]
    rfl
  | number h hn =>
    cases h with
    | negative hs h =>
      rw [List.cons_append, value, ← hs, literal?_append h hr]
      simp only [Option.map_some, hlit hn]
    | positive hs h =>
      have hread := literal?_append h hr
      obtain ⟨s, more, rfl, hd⟩ := h.exists_cons
      rw [List.cons_append] at hread ⊢
      rw [value_of_digit hd, ← hs, hread]
      simp only [Option.map_some, hlit hn]

/-- What is spelled in this way is read inside so many arrays and objects. -/
def Reads (P : Tree → List Symbol → Prop) (level : Nat) : Prop :=
  ∀ {t text fuel rest}, P t text → 2 * text.length ≤ fuel → Ended rest →
    value fuel level (text ++ rest) = some (t, rest)

theorem atLevel_of_le (h : level ≤ levelLimit) (t : Tree) : atLevel level t = t :=
  if_pos h

theorem items_listing (hP : Reads P level) (hb : ∀ {t text}, P t text → Begins text)
    (hl : level ≤ levelLimit) (h : Listing P ts text) (acc : List Tree)
    (hf : 2 * text.length + 1 ≤ fuel) :
    items fuel level acc (skipSpaces (text ++ some ']' :: rest)) =
      some (.array (acc.reverse ++ ts), rest) := by
  induction h generalizing acc fuel with
  | last h =>
    obtain @⟨before, inner, after, hs, hp, hs'⟩ := h
    obtain ⟨fuel, rfl⟩ := Nat.exists_eq_succ_of_ne_zero (by omega : fuel ≠ 0)
    simp only [List.length_append] at hf
    rw [List.append_assoc, List.append_assoc, skipSpaces_append hs, skipSpaces_of_begins (hb hp),
      items, hP hp (by omega) (ended_append hs' (ended_cons (by decide) rest))]
    simp (disch := decide) only [skipSpaces_append hs', skipSpaces_cons, atLevel_of_le hl,
      List.reverse_cons]
  | @cons t ts _ more h _ ih =>
    obtain @⟨before, inner, after, hs, hp, hs'⟩ := h
    obtain ⟨fuel, rfl⟩ := Nat.exists_eq_succ_of_ne_zero (by omega : fuel ≠ 0)
    simp only [List.length_append, List.length_cons] at hf
    simp only [List.append_assoc, List.cons_append]
    rw [skipSpaces_append hs, skipSpaces_of_begins (hb hp), items,
      hP hp (by omega) (ended_append hs' (ended_cons (by decide) _))]
    simp (disch := decide) only [skipSpaces_append hs', skipSpaces_cons]
    rw [ih (t :: acc) (by omega), List.reverse_cons, List.append_assoc, List.singleton_append]

/-- What is read of an object after a member: its end, or a comma and more members. -/
def afterMember (fuel level : Nat) (acc : List (Option String × Tree)) :
    List Symbol → Option (Tree × List Symbol)
  | some '}' :: rest => some (atLevel level (.object acc.reverse), rest)
  | some ',' :: rest => members fuel level acc (skipSpaces rest)
  | _ => none

/-- A member is read up to what follows its value. -/
theorem members_member (hP : Reads P level) (hb : ∀ {t text}, P t text → Begins text)
    {m : Option String × Tree} (h : SpellsMember P m text) (acc : List (Option String × Tree))
    (hf : 2 * text.length ≤ fuel) (hr : Ended rest) :
    members (fuel + 1) level acc (text ++ rest) =
      afterMember fuel level (m :: acc) (skipSpaces rest) := by
  obtain @⟨key, t, _, gap, gap', text, ⟨hk⟩, hg, hg', hp⟩ := h
  simp only [List.length_append, List.length_cons] at hf
  simp only [List.cons_append, List.append_assoc, List.nil_append]
  rw [members]
  simp (disch := decide) only [text?_append hk, skipSpaces_append hg, skipSpaces_cons,
    skipSpaces_append hg', skipSpaces_of_begins (hb hp),
    hP hp (by omega : 2 * text.length ≤ fuel) hr]
  rfl

theorem SpellsMember.begins {m : Option String × Tree} (h : SpellsMember P m text) :
    Begins text := by
  obtain ⟨⟨_⟩, _, _, _⟩ := h
  exact ⟨_, _, rfl, rfl, by decide, by decide⟩

theorem members_listing (hP : Reads P level) (hb : ∀ {t text}, P t text → Begins text)
    (hl : level ≤ levelLimit) (h : Listing (SpellsMember P) ms text)
    (acc : List (Option String × Tree)) (hf : 2 * text.length + 1 ≤ fuel) :
    members fuel level acc (skipSpaces (text ++ some '}' :: rest)) =
      some (.object (acc.reverse ++ ms), rest) := by
  induction h generalizing acc fuel with
  | last h =>
    obtain @⟨before, inner, after, hs, hm, hs'⟩ := h
    obtain ⟨fuel, rfl⟩ := Nat.exists_eq_succ_of_ne_zero (by omega : fuel ≠ 0)
    simp only [List.length_append] at hf
    rw [List.append_assoc, List.append_assoc, skipSpaces_append hs,
      skipSpaces_of_begins hm.begins, members_member hP hb hm acc (by omega)
        (ended_append hs' (ended_cons (by decide) rest))]
    simp (disch := decide) only [skipSpaces_append hs', skipSpaces_cons, afterMember,
      atLevel_of_le hl, List.reverse_cons]
  | @cons m ms _ more h _ ih =>
    obtain @⟨before, inner, after, hs, hm, hs'⟩ := h
    obtain ⟨fuel, rfl⟩ := Nat.exists_eq_succ_of_ne_zero (by omega : fuel ≠ 0)
    simp only [List.length_append, List.length_cons] at hf
    simp only [List.append_assoc, List.cons_append]
    rw [skipSpaces_append hs, skipSpaces_of_begins hm.begins,
      members_member hP hb hm acc (by omega) (ended_append hs' (ended_cons (by decide) _))]
    simp (disch := decide) only [skipSpaces_append hs', skipSpaces_cons, afterMember]
    rw [ih (m :: acc) (by omega), List.reverse_cons, List.append_assoc, List.singleton_append]

theorem value_array (h : ∀ more, skipSpaces rest ≠ some ']' :: more) :
    value (fuel + 1) level (some '[' :: rest) = items fuel (level + 1) [] (skipSpaces rest) := by
  rw [value]
  split
  · next e => exact absurd e (h _)
  · rfl

theorem value_object (h : ∀ more, skipSpaces rest ≠ some '}' :: more) :
    value (fuel + 1) level (some '{' :: rest) = members fuel (level + 1) [] (skipSpaces rest) := by
  rw [value]
  split
  · next e => exact absurd e (h _)
  · rfl

/-- A list begins with its first item, past the spaces. -/
theorem Listing.begins {α : Type} {Q : α → List Symbol → Prop} {as : List α}
    (hb : ∀ {a text}, Q a text → Begins text) (h : Listing Q as text) (rest : List Symbol) :
    Begins (skipSpaces (text ++ rest)) := by
  have hspaced {a : α} {text : List Symbol} (h : Spaced (Q a) text) (rest : List Symbol) :
      Begins (skipSpaces (text ++ rest)) := by
    obtain ⟨hs, hq, _⟩ := h
    rw [List.append_assoc, List.append_assoc, skipSpaces_append hs, skipSpaces_of_begins (hb hq)]
    obtain ⟨s, more, rfl, hs⟩ := hb hq
    exact ⟨s, _, rfl, hs⟩
  cases h with
  | last h => exact hspaced h rest
  | cons h _ =>
    rw [List.append_assoc]
    exact hspaced h _

/-- If what is one level deeper is read, so is what holds it. -/
theorem reads_spellsValue (hP : Reads P (level + 1)) (hb : ∀ {t text}, P t text → Begins text)
    (hl : level + 1 ≤ levelLimit) : Reads (SpellsValue P) level := by
  intro t text fuel rest h hf hr
  obtain ⟨fuel, rfl⟩ := exists_fuel h.begins hf
  cases h with
  | scalar h => exact value_scalar h hr
  | emptyArray hg =>
    rw [List.cons_append, List.append_assoc, value, skipSpaces_append hg]
    exact congrArg (fun t => some (t, rest)) (atLevel_of_le hl _)
  | array h =>
    simp only [List.length_append, List.length_cons] at hf
    rw [List.cons_append, List.append_assoc, value_array, List.singleton_append,
      items_listing hP hb hl h [] (by omega), List.reverse_nil, List.nil_append]
    exact (h.begins hb _).ne_bracket
  | emptyObject hg =>
    rw [List.cons_append, List.append_assoc, value, skipSpaces_append hg]
    exact congrArg (fun t => some (t, rest)) (atLevel_of_le hl _)
  | object h =>
    simp only [List.length_append, List.length_cons] at hf
    rw [List.cons_append, List.append_assoc, value_object, List.singleton_append,
      members_listing hP hb hl h [] (by omega), List.reverse_nil, List.nil_append]
    exact (h.begins SpellsMember.begins _).ne_brace

/-- What has as many levels as are left is read. -/
theorem reads_spells (hl : level + levels ≤ levelLimit) : Reads (Spells levels) level := by
  induction levels generalizing level with
  | zero =>
    intro t text fuel rest h hf hr
    obtain ⟨fuel, rfl⟩ := exists_fuel h.begins hf
    exact value_scalar h hr
  | succ levels ih =>
    exact reads_spellsValue (ih (by omega)) Spells.begins (by omega)

/-- A text that is one value is read as what it spells. -/
theorem parse?_of_isText {s : String} (h : IsText levelLimit t s) : Tree.parse? s = some t := by
  rw [IsText] at h
  rw [parse?, parseSymbols?]
  generalize s.toList.map some = input at h
  obtain @⟨before, inner, after, hs, hv, hs'⟩ := h
  have hlength : 2 * inner.length ≤ 2 * (before ++ (inner ++ after)).length + 1 := by
    simp only [List.length_append]
    omega
  have hended : Ended after := List.append_nil after ▸ ended_append hs' ended_nil
  have hread := reads_spells (Nat.zero_add _).le hv hlength hended
  have hafter : skipSpaces after = [] := by
    rw [← List.append_nil after, skipSpaces_append hs']
    rfl
  rw [skipSpaces_append hs, skipSpaces_of_begins hv.begins, hread]
  simp only [Option.bind_eq_bind, Option.bind_some, hafter, List.isEmpty_nil, if_true]

end Dialogue.Json
