import Dialogue.Proofs.Json.Reading

/-!
# Texts and their values

The reader and the grammar agree on which texts are values that can be used, and on what
these are (`parse?_eq_some_iff`).

* `Readable`: what can be used. All that is spelled can be (`Spells.readable`);
* `spelled`: what is read is spelled, if it can be used. The induction is on the fuel, with
  one step for values, one for items and one for members;
* `lookup_memberValues?`: of the members of an object under one key the last counts.
-/

namespace Dialogue.Json

open Dialogue.Json.Tree

variable {t : Tree} {ts : List Tree} {ms : List (Option String × Tree)}
  {text rest input : List Symbol} {fuel level levels : Nat}

/-! ## What can be used -/

/-- A tree that has a value. -/
def Readable (t : Tree) : Prop :=
  t.value?.isSome = true

theorem not_readable_unreadable : ¬ Readable .unreadable :=
  Bool.false_ne_true

theorem readable_array : Readable (.array ts) ↔ ∀ t ∈ ts, Readable t := by
  rw [Readable, value?, Option.isSome_map]
  induction ts with
  | nil => exact ⟨fun _ => List.forall_mem_nil _, fun _ => rfl⟩
  | cons t ts ih =>
    rw [List.forall_mem_cons, ← ih, values?, Readable]
    cases t.value? <;> simp

theorem readable_object :
    Readable (.object ms) ↔ ∀ m ∈ ms, m.1.isSome = true ∧ Readable m.2 := by
  rw [Readable, value?, Option.isSome_map]
  generalize ([] : List (String × Value)) = acc
  induction ms generalizing acc with
  | nil => exact ⟨fun _ => List.forall_mem_nil _, fun _ => rfl⟩
  | cons m ms ih =>
    obtain ⟨_ | key, t⟩ := m
    · simp [memberValues?]
    · rw [List.forall_mem_cons, memberValues?, Readable]
      cases t.value? <;> simp [ih]

theorem SpellsScalar.readable (h : SpellsScalar t text) : Readable t := by
  cases h <;> rfl

theorem Listing.forall_mem {α : Type} {Q : α → List Symbol → Prop} {as : List α}
    (h : Listing Q as text) : ∀ a ∈ as, ∃ text, Q a text := by
  induction h with
  | last h =>
    obtain ⟨_, h, _⟩ := h
    exact fun a ha => ⟨_, (List.mem_singleton.1 ha) ▸ h⟩
  | cons h _ ih =>
    obtain ⟨_, h, _⟩ := h
    exact List.forall_mem_cons.2 ⟨⟨_, h⟩, ih⟩

/-- What is spelled can be used. -/
theorem Spells.readable (h : Spells levels t text) : Readable t := by
  induction levels generalizing t text with
  | zero => exact SpellsScalar.readable h
  | succ levels ih =>
    cases h with
    | scalar h => exact h.readable
    | emptyArray _ => rfl
    | array h =>
      refine readable_array.2 fun t ht => ?_
      obtain ⟨_, ht⟩ := h.forall_mem t ht
      exact ih ht
    | emptyObject _ => rfl
    | object h =>
      refine readable_object.2 fun m hm => ?_
      obtain ⟨_, hm⟩ := h.forall_mem m hm
      obtain ⟨_, _, _, ht⟩ := hm
      exact ⟨rfl, ih ht⟩

theorem IsText.readable {s : String} (h : IsText levels t s) : Readable t := by
  rw [IsText] at h
  generalize s.toList.map some = input at h
  obtain ⟨_, hv, _⟩ := h
  exact hv.readable

/-! ## What is read is spelled -/

theorem of_readable_atLevel (h : Readable (atLevel level t)) : level ≤ levelLimit := by
  rw [atLevel] at h
  split_ifs at h with hl
  · exact hl
  · exact absurd h not_readable_unreadable

theorem Listing.prepend {α : Type} {Q : α → List Symbol → Prop} {as : List α} {gap : List Symbol}
    (hg : Spaces gap) (h : Listing Q as text) : Listing Q as (gap ++ text) := by
  have hspaced {a : α} {text : List Symbol} (h : Spaced (Q a) text) :
      Spaced (Q a) (gap ++ text) := by
    obtain ⟨hs, hq, hs'⟩ := h
    rw [← List.append_assoc]
    exact ⟨fun s hs'' => (List.mem_append.1 hs'').elim (hg s) (hs s), hq, hs'⟩
  cases h with
  | last h => exact .last (hspaced h)
  | cons h hm =>
    rw [← List.append_assoc]
    exact .cons (hspaced h) hm

/-- What is read as a value with so much fuel, if it can be used, is spelled. -/
def ValuesSpelled (fuel : Nat) : Prop :=
  ∀ {level input t rest}, value fuel level input = some (t, rest) → Readable t →
    ∃ text, input = text ++ rest ∧ Spells (levelLimit - level) t text

/-- What is read as the rest of an array, if it can be used, is spelled. -/
def ItemsSpelled (fuel : Nat) : Prop :=
  ∀ {level acc input t rest}, items fuel level acc input = some (t, rest) → Readable t →
    level ≤ levelLimit ∧ ∃ ts text, t = .array (acc.reverse ++ ts) ∧
      input = text ++ some ']' :: rest ∧ Listing (Spells (levelLimit - level)) ts text

/-- What is read as the rest of an object, if it can be used, is spelled. -/
def MembersSpelled (fuel : Nat) : Prop :=
  ∀ {level acc input t rest}, members fuel level acc input = some (t, rest) → Readable t →
    level ≤ levelLimit ∧ ∃ ms text, t = .object (acc.reverse ++ ms) ∧
      input = text ++ some '}' :: rest ∧
        Listing (SpellsMember (Spells (levelLimit - level))) ms text

/-- The last item of a list, with spaces after it. -/
theorem Listing.singleton {α : Type} {Q : α → List Symbol → Prop} {a : α} {gap : List Symbol}
    (h : Q a text) (hg : Spaces gap) : Listing Q [a] (text ++ gap) :=
  .last (.intro (List.forall_mem_nil _) h hg)

/-- One item more in front of a list, with spaces around the comma. -/
theorem Listing.cons_append {α : Type} {Q : α → List Symbol → Prop} {a : α} {as : List α}
    {gap gap' more : List Symbol} (h : Q a text) (hg : Spaces gap) (hg' : Spaces gap')
    (hm : Listing Q as more) : Listing Q (a :: as) (text ++ gap ++ some ',' :: (gap' ++ more)) :=
  .cons (.intro (List.forall_mem_nil _) h hg) (hm.prepend hg')

theorem itemsSpelled_succ (hv : ValuesSpelled fuel) (hi : ItemsSpelled fuel) :
    ItemsSpelled (fuel + 1) := by
  intro level acc input t rest h ht
  rw [items] at h
  split at h
  · cases h
  · next a after ha =>
    obtain ⟨gap, hg, hafter⟩ := exists_spaces after
    split at h
    · next e =>
      cases h
      have hl := of_readable_atLevel ht
      rw [atLevel_of_le hl] at ht ⊢
      obtain ⟨text, rfl, hs⟩ := hv ha (readable_array.1 ht a (by simp))
      refine ⟨hl, [a], text ++ gap, by simp, ?_, .singleton hs hg⟩
      rw [hafter, e, List.append_assoc]
    · next next e =>
      obtain ⟨hl, ts, more, rfl, hm, hts⟩ := hi h ht
      obtain ⟨text, rfl, hs⟩ := hv ha (readable_array.1 ht a (by simp))
      obtain ⟨gap', hg', hnext⟩ := exists_spaces next
      refine ⟨hl, a :: ts, text ++ gap ++ some ',' :: (gap' ++ more), by simp, ?_,
        .cons_append hs hg hg' hts⟩
      rw [hafter, e, hnext, hm]
      simp
    · cases h

/-- A member that was read part by part, if it can be used, is spelled. -/
theorem of_member (hv : ValuesSpelled fuel) {key : Option String} {next after : List Symbol}
    (hk : text? input = some (key, rest)) (hc : skipSpaces rest = some ':' :: next)
    (ht : value fuel level (skipSpaces next) = some (t, after)) (hkey : key.isSome = true)
    (hr : Readable t) :
    ∃ text, some '"' :: input = text ++ after ∧
      SpellsMember (Spells (levelLimit - level)) (key, t) text := by
  obtain ⟨key, rfl⟩ := Option.isSome_iff_exists.1 hkey
  obtain ⟨name, rfl, hname⟩ := of_text? hk
  obtain ⟨gap, hg, hrest⟩ := exists_spaces rest
  obtain ⟨gap', hg', hnext⟩ := exists_spaces next
  obtain ⟨text, htext, hs⟩ := hv ht hr
  refine ⟨_, ?_, .intro (.intro hname) hg hg' hs⟩
  rw [hrest, hc, hnext, htext]
  simp

theorem membersSpelled_succ (hv : ValuesSpelled fuel) (hm : MembersSpelled fuel) :
    MembersSpelled (fuel + 1) := by
  intro level acc input t rest h ht
  rw [members.eq_def] at h
  dsimp only at h
  split at h <;> try cases h
  split at h <;> try cases h
  next key after hk =>
  split at h <;> try cases h
  next next hc =>
  split at h <;> try cases h
  next a after ha =>
  obtain ⟨gap, hg, hafter⟩ := exists_spaces after
  split at h
  · next e =>
    cases h
    have hl := of_readable_atLevel ht
    rw [atLevel_of_le hl] at ht ⊢
    obtain ⟨hkey, hr⟩ := readable_object.1 ht (key, a) (by simp)
    obtain ⟨text, hi, hs⟩ := of_member hv hk hc ha hkey hr
    refine ⟨hl, [(key, a)], text ++ gap, by simp, ?_, .singleton hs hg⟩
    rw [hi, hafter, e, List.append_assoc]
  · next next' e =>
    obtain ⟨hl, ms, more, rfl, hmore, hms⟩ := hm h ht
    obtain ⟨hkey, hr⟩ := readable_object.1 ht (key, a) (by simp)
    obtain ⟨text, hi, hs⟩ := of_member hv hk hc ha hkey hr
    obtain ⟨gap', hg', hnext⟩ := exists_spaces next'
    refine ⟨hl, (key, a) :: ms, text ++ gap ++ some ',' :: (gap' ++ more), by simp, ?_,
      .cons_append hs hg hg' hms⟩
    rw [hi, hafter, e, hnext, hmore]
    simp
  · cases h

/-- What holds other values takes one level more than they do. -/
theorem spells_of_nested (hl : level + 1 ≤ levelLimit)
    (h : SpellsValue (Spells (levelLimit - (level + 1))) t text) :
    Spells (levelLimit - level) t text := by
  rw [show levelLimit - level = levelLimit - (level + 1) + 1 by omega]
  exact h

theorem of_value_array (hi : ItemsSpelled fuel)
    (h : value (fuel + 1) level (some '[' :: input) = some (t, rest)) (ht : Readable t) :
    ∃ text, some '[' :: input = text ++ rest ∧ Spells (levelLimit - level) t text := by
  obtain ⟨gap, hg, hinput⟩ := exists_spaces input
  rw [value] at h
  split at h
  · next e =>
    cases h
    have hl := of_readable_atLevel ht
    rw [atLevel_of_le hl]
    refine ⟨some '[' :: (gap ++ [some ']']), ?_, spells_of_nested hl (.emptyArray hg)⟩
    rw [hinput, e]
    simp
  · obtain ⟨hl, ts, text, rfl, htext, hs⟩ := hi h ht
    refine ⟨some '[' :: (gap ++ text ++ [some ']']), ?_,
      spells_of_nested hl (.array (hs.prepend hg))⟩
    rw [hinput, htext]
    simp

theorem of_value_object (hm : MembersSpelled fuel)
    (h : value (fuel + 1) level (some '{' :: input) = some (t, rest)) (ht : Readable t) :
    ∃ text, some '{' :: input = text ++ rest ∧ Spells (levelLimit - level) t text := by
  obtain ⟨gap, hg, hinput⟩ := exists_spaces input
  rw [value] at h
  split at h
  · next e =>
    cases h
    have hl := of_readable_atLevel ht
    rw [atLevel_of_le hl]
    refine ⟨some '{' :: (gap ++ [some '}']), ?_, spells_of_nested hl (.emptyObject hg)⟩
    rw [hinput, e]
    simp
  · obtain ⟨hl, ms, text, rfl, htext, hs⟩ := hm h ht
    refine ⟨some '{' :: (gap ++ text ++ [some '}']), ?_,
      spells_of_nested hl (.object (hs.prepend hg))⟩
    rw [hinput, htext]
    simp

/-- A number that is read and can be used is spelled by its literal. -/
theorem of_map_literal? {negative : Bool}
    (h : (literal? negative input).map (fun (l, rest) => (ofLiteral l, rest)) = some (t, rest))
    (ht : Readable t) :
    ∃ l n text, input = text ++ rest ∧ l.negative = negative ∧ SpellsUnsigned l text ∧
      l.number? = some n ∧ t = .number n := by
  obtain ⟨⟨l, rest'⟩, hl, he⟩ := Option.map_eq_some_iff.1 h
  cases he
  obtain ⟨hneg, text, hinput, hs⟩ := of_literal? hl
  rw [ofLiteral] at ht ⊢
  cases hn : l.number? with
  | none =>
    rw [hn] at ht
    exact absurd ht not_readable_unreadable
  | some n => exact ⟨l, n, text, hinput, hneg, hs, hn, rfl⟩

theorem of_word? {cs : List Char} (h : word? cs input = some rest) :
    input = cs.map some ++ rest := by
  induction cs generalizing input with
  | nil => exact Option.some.inj h
  | cons c cs ih =>
    cases input with
    | nil => cases h
    | cons s input =>
      rw [word?] at h
      split_ifs at h with hs
      rw [hs, ih h, List.map_cons, List.cons_append]

/-- A word that is read is spelled. -/
theorem of_map_word? {cs : List Char} {c : Char} {word : Tree}
    (h : (word? cs input).map (word, ·) = some (t, rest))
    (hs : SpellsScalar word ((c :: cs).map some)) :
    ∃ text, some c :: input = text ++ rest ∧ Spells (levelLimit - level) t text := by
  obtain ⟨rest', hw, he⟩ := Option.map_eq_some_iff.1 h
  cases he
  exact ⟨_, congrArg (some c :: ·) (of_word? hw), .scalar hs _⟩

theorem valuesSpelled_succ (hi : ItemsSpelled fuel) (hm : MembersSpelled fuel) :
    ValuesSpelled (fuel + 1) := by
  intro level input t rest h ht
  have hvalue := h
  rw [value.eq_def] at h
  dsimp only at h
  -- One case for each character that a value may begin with.
  split at h
  · exact of_value_array hi hvalue ht
  · exact of_value_object hm hvalue ht
  · next after =>
    obtain ⟨⟨_ | s, rest'⟩, hs, he⟩ := Option.map_eq_some_iff.1 h
    · cases he
      exact absurd ht not_readable_unreadable
    · cases he
      obtain ⟨text, rfl, hchars⟩ := of_text? hs
      exact ⟨some '"' :: (text ++ [some '"']), by simp, .scalar (.string (.intro hchars)) _⟩
  · obtain ⟨l, n, text, rfl, hneg, hs, hn, rfl⟩ := of_map_literal? h ht
    exact ⟨some '-' :: text, rfl, .scalar (.number (.negative hneg hs) hn) _⟩
  · exact of_map_word? h .true
  · exact of_map_word? h .false
  · exact of_map_word? h .null
  · obtain ⟨l, n, text, rfl, hneg, hs, hn, rfl⟩ := of_map_literal? h ht
    exact ⟨text, rfl, .scalar (.number (.positive hneg hs) hn) _⟩

/-- Whatever the fuel, what is read is spelled if it can be used. -/
theorem spelled (fuel : Nat) : ValuesSpelled fuel ∧ ItemsSpelled fuel ∧ MembersSpelled fuel := by
  induction fuel with
  | zero =>
    refine ⟨fun h => ?_, fun h => ?_, fun h => ?_⟩
    · rw [value] at h
      cases h
    · rw [items] at h
      cases h
    · rw [members] at h
      cases h
  | succ fuel ih =>
    obtain ⟨hv, hi, hm⟩ := ih
    exact ⟨valuesSpelled_succ hi hm, itemsSpelled_succ hv hi, membersSpelled_succ hv hm⟩

/-- A text that is read as something that can be used is a text that spells it. -/
theorem isText_of_parse? {s : String} (h : Tree.parse? s = some t) (ht : Readable t) :
    IsText levelLimit t s := by
  rw [parse?, parseSymbols?] at h
  rw [IsText]
  generalize s.toList.map some = input at h
  obtain ⟨⟨t', rest⟩, hv, h⟩ := Option.bind_eq_some_iff.1 h
  dsimp only at h
  split_ifs at h with he
  cases h
  obtain ⟨before, hb, hinput⟩ := exists_spaces input
  obtain ⟨after, ha, hrest⟩ := exists_spaces rest
  obtain ⟨text, htext, hs⟩ := (spelled _).1 hv ht
  rw [List.isEmpty_iff.1 he, List.append_nil] at hrest
  rw [hinput, htext, hrest]
  exact .intro hb hs ha

/-- A text is read as a value exactly if it spells a tree of at most as many levels as can be
    read, and the value is that of the tree. -/
theorem parse?_eq_some_iff {s : String} {v : Value} :
    Value.parse? s = some v ↔ ∃ t, IsText levelLimit t s ∧ t.value? = some v := by
  rw [Value.parse?, Option.bind_eq_some_iff]
  constructor
  · rintro ⟨t, hp, hv⟩
    exact ⟨t, isText_of_parse? hp (Option.isSome_iff_exists.2 ⟨v, hv⟩), hv⟩
  · rintro ⟨t, ht, hv⟩
    exact ⟨t, parse?_of_isText ht, hv⟩

/-! ## Members -/

/-- The last of the trees under a key. -/
def lastUnder? (key : String) : List (Option String × Tree) → Option Tree
  | [] => none
  | (k, t) :: rest => lastUnder? key rest <|> if k = some key then some t else none

theorem lookup_insert (k : String) (v : Value) (members : List (String × Value)) (key : String) :
    (Members.insert k v members).lookup key =
      if key = k then some v else members.lookup key := by
  induction members with
  | nil =>
    rw [Members.insert, List.lookup_cons]
    grind
  | cons m members ih =>
    obtain ⟨k', v'⟩ := m
    rw [Members.insert]
    grind

/-- The members of an object hold under a key the value of the last tree under it. -/
theorem lookup_memberValues? {key : String} {acc members : List (String × Value)}
    {ms : List (Option String × Tree)} (h : Tree.memberValues? acc ms = some members) :
    members.lookup key =
      match lastUnder? key ms with
      | some t => t.value?
      | none => acc.lookup key := by
  induction ms generalizing acc with
  | nil =>
    cases h
    rfl
  | cons m ms ih =>
    obtain ⟨_ | k, t⟩ := m
    · cases h
    · rw [Tree.memberValues?] at h
      cases ht : t.value? with
      | none =>
        rw [ht] at h
        cases h
      | some v =>
        rw [ht] at h
        rw [ih h, lastUnder?, lookup_insert]
        cases lastUnder? key ms <;> grind

end Dialogue.Json
