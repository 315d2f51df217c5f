import Dialogue.Proofs.Text.Blank
import Dialogue.Terminal.Instruction

/-!
# Lines and what they ask for

An instruction is well-formed if its texts are trimmed, its identifiers are words, and a message
does not begin with a slash. These are the instructions that lines ask for, and each is asked for
by its words, with any blanks between them and around.

* `wellFormed_of_ofChars`: what a line asks for is well-formed;
* `ofChars_of_spaced`: the words of a well-formed instruction are read as it, however they are
  spaced;
* `lines_ask_wellFormed`: both directions, for lines as texts.
-/

namespace Dialogue.Terminal

open Text

/-- Words with blanks between them. -/
inductive Spaced : List String → List Char → Prop
  | last (word : String) : Spaced [word] word.toList
  | cons {word : String} {words : List String} {gap line : List Char} : gap ≠ [] → Blanks gap →
      Spaced words line → Spaced (word :: words) (word.toList ++ gap ++ line)

theorem Spaced.trimmed {words : List String} {line : List Char} (h : Spaced words line)
    (hw : ∀ word ∈ words, Trimmed word.toList) : Trimmed line := by
  induction h with
  | last word => exact hw word List.mem_cons_self
  | cons _ _ _ ih =>
    rw [List.forall_mem_cons] at hw
    exact hw.1.append (ih hw.2) _

/-- Words may be spaced by one blank each. -/
theorem spaced_intercalate (word : String) (words : List String) :
    Spaced (word :: words) (" ".intercalate (word :: words)).toList := by
  induction words generalizing word with
  | nil =>
    rw [String.intercalate_singleton]
    exact .last word
  | cons next words ih =>
    rw [String.intercalate_cons_cons, String.toList_append, String.toList_append]
    exact .cons (by decide) (by decide) (ih next)

namespace Instruction

/-- The texts are trimmed, the identifiers are words, and a message begins with no slash. -/
def WellFormed : Instruction → Prop
  | .submit content => Trimmed content.toList ∧ content.toList.head? ≠ some '/'
  | .approve callId => ∀ id ∈ callId, IsWord id.toList
  | .deny callId reason => IsWord callId.toList ∧ ∀ text ∈ reason, Trimmed text.toList
  | .now id | .drop id => IsWord id.toList
  | .cancel | .denyAll | .queue | .usage | .help | .quit => True

variable {i : Instruction} {word : String} {arguments lead gap line trail : List Char}

/-! ## What lines ask for -/

theorem isWord_of_firstWord? {id : String} (h : firstWord? arguments = some id) :
    IsWord id.toList := by
  obtain ⟨cs, hc, rfl⟩ := Option.map_eq_some_iff.1 h
  rw [String.toList_ofList]
  exact Text.isWord_of_firstWord? hc

/-- A denial names a call and may give a reason. -/
theorem wellFormed_ofDenial (h : arguments = [] ∨ Trimmed arguments) :
    (ofDenial arguments).WellFormed := by
  rcases h with rfl | h
  · trivial
  rw [ofDenial, if_neg (by rw [List.isEmpty_iff]; exact h.ne_nil), splitWord]
  cases hc : cutAtBlank? arguments with
  | none =>
    refine ⟨?_, nofun⟩
    rw [String.toList_ofList]
    exact ⟨h.ne_nil, cutAtBlank?_eq_none_iff.1 hc⟩
  | some cut =>
    obtain ⟨callId, rest⟩ := cut
    obtain ⟨hw, b, hb, rfl⟩ := of_cutAtBlank? hc
    refine ⟨?_, ?_⟩
    · rw [String.toList_ofList]
      refine ⟨?_, hw⟩
      -- The arguments do not begin with a blank.
      rintro rfl
      obtain ⟨c, hh, hn⟩ := h.head
      obtain rfl := Option.some.inj hh
      exact Bool.noConfusion (hb.symm.trans hn)
    · rintro text ⟨⟩
      rw [String.toList_ofList]
      refine trimmed_trimChars fun hn => ?_
      -- Nor do they end with one, so that something follows the blank.
      obtain ⟨c, hl, hn'⟩ := h.last
      have hblank : Blanks (b :: rest) :=
        List.forall_mem_cons.2 ⟨hb, trimChars_eq_nil_iff.1 hn⟩
      have hm : c ∈ b :: rest := by
        rw [List.getLast?_append_cons] at hl
        exact List.mem_of_getLast? hl
      exact Bool.noConfusion ((hblank c hm).symm.trans hn')

theorem of_needEntry {make : String → Instruction}
    (h : needEntry word make arguments = .ok i) : ∃ id : String, IsWord id.toList ∧ i = make id := by
  rw [needEntry] at h
  split at h
  · next id hid =>
    obtain rfl := Except.ok.inj h
    exact ⟨id, isWord_of_firstWord? hid, rfl⟩
  · cases h

theorem wellFormed_of_ofWord (ha : arguments = [] ∨ Trimmed arguments)
    (h : ofWord word arguments = .ok i) : i.WellFormed := by
  unfold ofWord at h
  -- The cases are the words in their order; those behind `drop` need nothing.
  split_ifs at h with hcancel happrove hdeny hqueue hnow hdrop husage hhelp hquit
  · cases h
    trivial
  · cases h
    exact fun id hid => isWord_of_firstWord? hid
  · cases h
    exact wellFormed_ofDenial ha
  · cases h
    trivial
  · obtain ⟨id, hid, rfl⟩ := of_needEntry h
    exact hid
  · obtain ⟨id, hid, rfl⟩ := of_needEntry h
    exact hid
  all_goals
    cases h
    trivial

/-- Whatever a line asks for is well-formed. -/
theorem wellFormed_of_ofChars (h : ofChars line = .ok (some i)) : i.WellFormed := by
  rw [ofChars] at h
  split at h
  · cases h
  · next rest _ =>
    -- After a slash come a word and what it needs, which is nothing or trimmed.
    cases hw : ofWord (String.ofList (splitWord rest).1)
        (trimChars ((splitWord rest).2.getD [])) with
    | error e =>
      simp only [hw] at h
      cases h
    | ok i' =>
      simp only [hw] at h
      cases h
      exact wellFormed_of_ofWord ((eq_or_ne _ []).imp_right trimmed_trimChars) hw
  · next hnil hslash =>
    cases h
    refine ⟨?_, fun hs => ?_⟩
    · rw [String.toList_ofList]
      exact trimmed_trimChars hnil
    · rw [String.toList_ofList] at hs
      obtain ⟨rest, hr⟩ := List.head?_eq_some_iff.1 hs
      exact hslash rest hr

/-! ## Lines that ask for an instruction -/

/-- Blanks around a line do not matter. -/
theorem ofChars_spaced (hl : Blanks lead) (h : Trimmed line) (ht : Blanks trail) :
    ofChars (lead ++ line ++ trail) = ofChars line := by
  rw [ofChars, ofChars, List.append_assoc, trimChars_spaced hl h ht, h.trimChars_eq]

variable {command : String} {words : List String}

theorem isWord_slash (hw : IsWord word.toList) : IsWord ('/' :: word.toList) :=
  ⟨List.cons_ne_nil _ _, List.forall_mem_cons.2 ⟨by decide, hw.unblank⟩⟩

/-- A slash and a word are an instruction that needs nothing. -/
theorem ofChars_word (hc : command.toList = '/' :: word.toList) (hw : IsWord word.toList) :
    ofChars command.toList = (ofWord word []).map some := by
  rw [ofChars, hc, (isWord_slash hw).trimmed.trimChars_eq]
  simp only [splitWord, cutAtBlank?_eq_none_iff.2 hw.unblank, String.ofList_toList]
  rfl

/-- Other words behind it, if they are trimmed, are what it needs. -/
theorem ofChars_words (word : String) (hc : command.toList = '/' :: word.toList)
    (hw : IsWord word.toList) (hs : Spaced (command :: words) line) (hne : words ≠ [])
    (ht : ∀ w ∈ words, Trimmed w.toList) :
    ∃ arguments, Spaced words arguments ∧ ofChars line = (ofWord word arguments).map some := by
  cases hs with
  | last => exact absurd rfl hne
  | @cons _ _ gap arguments hg hb hs =>
    have hargs : Trimmed arguments := hs.trimmed ht
    refine ⟨arguments, hs, ?_⟩
    obtain ⟨b, gap, rfl⟩ := List.exists_cons_of_ne_nil hg
    obtain ⟨hb, hgap⟩ := List.forall_mem_cons.1 hb
    have htrim : trimChars ('/' :: word.toList ++ b :: gap ++ arguments) =
        '/' :: (word.toList ++ b :: (gap ++ arguments)) := by
      rw [((isWord_slash hw).trimmed.append hargs (b :: gap)).trimChars_eq]
      simp
    rw [ofChars, hc, htrim]
    simp only [splitWord, cutAtBlank?_append hw.unblank hb, String.ofList_toList, Option.getD_some,
      trimChars_append hgap hargs]

theorem firstWord?_toList {id : String} (h : IsWord id.toList) :
    firstWord? id.toList = some id := by
  rw [firstWord?, firstWord?_of_isWord h, Option.map_some, String.ofList_toList]

theorem needEntry_toList {id : String} (h : IsWord id.toList) (make : String → Instruction) :
    needEntry word make id.toList = .ok (make id) := by
  rw [needEntry, firstWord?_toList h]

theorem ofDenial_toList {callId : String} (h : IsWord callId.toList) :
    ofDenial callId.toList = .deny callId none := by
  rw [ofDenial, if_neg (by rw [List.isEmpty_iff]; exact h.ne_nil), splitWord,
    cutAtBlank?_eq_none_iff.2 h.unblank]
  simp

theorem ofDenial_spaced {callId reason : String} (h : IsWord callId.toList)
    (hr : Trimmed reason.toList) (hs : Spaced [callId, reason] arguments) :
    ofDenial arguments = .deny callId (some reason) := by
  cases hs with
  | @cons _ _ gap _ hg hb hs =>
    cases hs with
    | last =>
      obtain ⟨b, gap, rfl⟩ := List.exists_cons_of_ne_nil hg
      obtain ⟨hb, hgap⟩ := List.forall_mem_cons.1 hb
      have hcut : cutAtBlank? (callId.toList ++ b :: gap ++ reason.toList) =
          some (callId.toList, gap ++ reason.toList) := by
        rw [List.append_assoc]
        exact cutAtBlank?_append h.unblank hb _
      rw [ofDenial, if_neg (by simp), splitWord, hcut]
      simp [trimChars_append hgap hr]
    | cons _ _ h => cases h

/-- An instruction that needs nothing. -/
theorem ofChars_bare (word : String) (hc : command.toList = '/' :: word.toList)
    (hw : IsWord word.toList) (ho : ofWord word [] = .ok i) (hs : Spaced [command] line) :
    ofChars line = .ok (some i) := by
  cases hs with
  | last =>
    rw [ofChars_word hc hw, ho]
    rfl
  | cons _ _ h => cases h

/-- An instruction that needs an identifier. -/
theorem ofChars_identified (word : String) (hc : command.toList = '/' :: word.toList)
    (hw : IsWord word.toList) {id : String} (hid : IsWord id.toList)
    (ho : ofWord word id.toList = .ok i) (hs : Spaced [command, id] line) :
    ofChars line = .ok (some i) := by
  obtain ⟨arguments, ha, hl⟩ := ofChars_words word hc hw hs (List.cons_ne_nil _ _)
    (List.forall_mem_singleton.2 hid.trimmed)
  cases ha with
  | last =>
    rw [hl, ho]
    rfl
  | cons _ _ h => cases h

theorem ofChars_content {content : String} (h : (submit content).WellFormed) :
    ofChars content.toList = .ok (some (.submit content)) := by
  obtain ⟨ht, hs⟩ := h
  rw [ofChars, ht.trimChars_eq]
  split
  · next hn => exact absurd hn ht.ne_nil
  · next hr => exact absurd (by rw [hr]; rfl) hs
  · rw [String.ofList_toList]

/-- A well-formed instruction is asked for by its words, however they are spaced. -/
theorem ofChars_of_spaced (h : i.WellFormed) (hs : Spaced i.words line) :
    ofChars line = .ok (some i) := by
  cases i with
  | submit content =>
    cases hs with
    | last => exact ofChars_content h
    | cons _ _ hn => cases hn
  | cancel => exact ofChars_bare "cancel" rfl (by decide) rfl hs
  | approve callId =>
    cases callId with
    | none => exact ofChars_bare "approve" rfl (by decide) rfl hs
    | some id =>
      have ho : ofWord "approve" id.toList = .ok (.approve (some id)) :=
        congrArg (fun id => Except.ok (approve id)) (firstWord?_toList (h id rfl))
      exact ofChars_identified "approve" rfl (by decide) (h id rfl) ho hs
  | deny callId reason =>
    cases reason with
    | none =>
      have ho : ofWord "deny" callId.toList = .ok (.deny callId none) :=
        congrArg Except.ok (ofDenial_toList h.1)
      exact ofChars_identified "deny" rfl (by decide) h.1 ho hs
    | some reason =>
      have hr : Trimmed reason.toList := h.2 reason rfl
      have hd : ∀ w ∈ [callId, reason], Trimmed w.toList :=
        List.forall_mem_cons.2 ⟨h.1.trimmed, List.forall_mem_singleton.2 hr⟩
      obtain ⟨arguments, ha, hl⟩ :=
        ofChars_words "deny" rfl (by decide) hs (List.cons_ne_nil _ _) hd
      have ho : ofWord "deny" arguments = .ok (.deny callId (some reason)) :=
        congrArg Except.ok (ofDenial_spaced h.1 hr ha)
      rw [hl, ho]
      rfl
  | denyAll => exact ofChars_bare "deny" rfl (by decide) rfl hs
  | queue => exact ofChars_bare "queue" rfl (by decide) rfl hs
  | now id =>
    exact ofChars_identified "now" rfl (by decide) h (needEntry_toList h _) hs
  | drop id =>
    exact ofChars_identified "drop" rfl (by decide) h (needEntry_toList h _) hs
  | usage => exact ofChars_bare "usage" rfl (by decide) rfl hs
  | help => exact ofChars_bare "help" rfl (by decide) rfl hs
  | quit => exact ofChars_bare "quit" rfl (by decide) rfl hs

/-- The words of a well-formed instruction are trimmed. -/
theorem WellFormed.trimmed (h : i.WellFormed) : ∀ word ∈ i.words, Trimmed word.toList := by
  have hcommand {command : String} (hw : IsWord command.toList) {words : List String}
      (ht : ∀ w ∈ words, Trimmed w.toList) : ∀ w ∈ command :: words, Trimmed w.toList :=
    List.forall_mem_cons.2 ⟨hw.trimmed, ht⟩
  cases i with
  | submit content => exact List.forall_mem_singleton.2 h.1
  | approve callId =>
    cases callId with
    | none => exact hcommand (by decide) (List.forall_mem_nil _)
    | some id =>
      exact hcommand (by decide) (hcommand (h id rfl) (List.forall_mem_nil _))
  | deny callId reason =>
    cases reason with
    | none => exact hcommand (by decide) (hcommand h.1 (List.forall_mem_nil _))
    | some reason =>
      exact hcommand (by decide)
        (hcommand h.1 (List.forall_mem_singleton.2 (h.2 reason rfl)))
  | now id | drop id => exact hcommand (by decide) (hcommand h (List.forall_mem_nil _))
  | cancel | denyAll | queue | usage | help | quit =>
    exact hcommand (by decide) (List.forall_mem_nil _)

/-- The line of an instruction has one blank between its words. -/
theorem spaced_line (i : Instruction) : Spaced i.words i.line.toList := by
  rw [Instruction.line]
  cases i with
  | approve callId => cases callId <;> exact spaced_intercalate _ _
  | deny _ reason => cases reason <;> exact spaced_intercalate _ _
  | _ => exact spaced_intercalate _ _

/-- Whatever a line asks for is well-formed. And every well-formed instruction is asked for by its
    line, and by its words with any other blanks between them and around. -/
theorem lines_ask_wellFormed :
    (∀ line i, parse line = .ok (some i) → i.WellFormed) ∧
    ∀ i : Instruction, i.WellFormed → parse i.line = .ok (some i) ∧
      ∀ lead line trail, Blanks lead → Spaced i.words line → Blanks trail →
        parse (String.ofList (lead ++ line ++ trail)) = .ok (some i) := by
  refine ⟨fun line i h => wellFormed_of_ofChars h, fun i h => ⟨?_, ?_⟩⟩
  · exact ofChars_of_spaced h i.spaced_line
  · intro lead line trail hl hs ht
    rw [parse, String.toList_ofList, ofChars_spaced hl (hs.trimmed h.trimmed) ht]
    exact ofChars_of_spaced h hs

/-- A denial between wide blanks and a line end, with a reason that has blanks of its own. -/
theorem lines_ask_wellFormed_denial :
    let i := deny "c/1" (some "not  on\tfriday")
    let lead := ['\u3000', ' ']
    let line := "/deny\t c/1\u00a0\nnot  on\tfriday".toList
    let trail := [' ', '\n']
    i.WellFormed ∧ Blanks lead ∧ Spaced i.words line ∧ Blanks trail ∧
      parse (String.ofList (lead ++ line ++ trail)) = .ok (some i) := by
  intro i lead line trail
  have hi : i.WellFormed := by
    refine ⟨by decide, ?_⟩
    rintro _ ⟨⟩
    exact ⟨⟨'n', rfl, by decide⟩, ⟨'y', rfl, by decide⟩⟩
  have hl : Blanks lead := by decide
  have hg : Blanks ['\t', ' '] := by decide
  have hg' : Blanks ['\u00a0', '\n'] := by decide
  have hs : Spaced i.words line := .cons (by decide) hg (.cons (by decide) hg' (.last _))
  have ht : Blanks trail := by decide
  have hp : parse (String.ofList (lead ++ line ++ trail)) = .ok (some i) :=
    (lines_ask_wellFormed.2 i hi).2 lead line trail hl hs ht
  exact ⟨lines_ask_wellFormed.1 _ i hp, hl, hs, ht, hp⟩

end Instruction

end Dialogue.Terminal
