import Dialogue.Proofs.Message
import Mathlib.Data.List.Chain

/-!
# What the segments of a message say

A message is written a piece of text or a call at a time (`Written`). Its segments are an
*outline* of that, in which pieces of text that come one after the other are one segment. So
that it does not matter how text is cut into pieces, what is written is spelled out, each
character and each call by itself (`Written.spelled`).

* `gains_appendText`, `gains_applyUpdate`, `gains_applyPending`: what events write to a message
  is added to its content and spelled out at the end of its outline, which stays tidy: no text
  is empty, and no two are adjacent (`Message.Gains`);
* `exists_of_spelled`, `join_of_spelled`: a call that is spelled out was written, and the text
  after it is what was written until the next one;
* `Message.LaidOut`: what follows for the segments of a message (`laidOut_of_spelled`).
-/

namespace Dialogue

/-- What is written to a message: a piece of text, or a call that begins. -/
inductive Written where
  | text (words : String)
  | call (callId : String)
  deriving DecidableEq, Repr

namespace Written

/-- The text, if this is one. -/
def text? : Written → Option String
  | .text words => some words
  | .call _ => none

/-- The call, if this is one. -/
def call? : Written → Option String
  | .call callId => some callId
  | .text _ => none

/-- Whether this is a call. -/
def isCall : Written → Bool
  | .call _ => true
  | .text _ => false

/-- The pieces of text, in order. -/
def texts (ws : List Written) : List String :=
  ws.filterMap text?

/-- The calls, in order. -/
def calls (ws : List Written) : List String :=
  ws.filterMap call?

/-- A piece of text as its characters, and a call as itself. -/
def letters : Written → List (Char ⊕ String)
  | .text words => words.toList.map .inl
  | .call callId => [.inr callId]

/-- What was written, spelled out. -/
def spelled (ws : List Written) : List (Char ⊕ String) :=
  ws.flatMap letters

/-- No text is empty, and no two are adjacent. -/
structure Tidy (ws : List Written) : Prop where
  nonempty : .text "" ∉ ws
  apart : ws.IsChain fun w w' => w.isCall = true ∨ w'.isCall = true

variable {ws ws' : List Written}

theorem spelled_append (ws ws' : List Written) : spelled (ws ++ ws') = spelled ws ++ spelled ws' :=
  List.flatMap_append

theorem spelled_singleton (w : Written) : spelled [w] = letters w :=
  List.flatMap_singleton letters w

theorem join_texts_singleton (words : String) : String.join (texts [.text words]) = words := by
  rw [show texts [.text words] = [words] from rfl, String.join_cons, String.join_nil,
    String.append_empty]

theorem texts_append (ws ws' : List Written) : texts (ws ++ ws') = texts ws ++ texts ws' :=
  List.filterMap_append

theorem texts_calls (callIds : List String) : texts (callIds.map .call) = [] := by
  rw [texts, List.filterMap_map, List.filterMap_eq_nil_iff]
  exact fun _ _ => rfl

theorem calls_calls (callIds : List String) : calls (callIds.map .call) = callIds := by
  rw [calls, List.filterMap_map]
  exact List.filterMap_some

/-- The characters that are spelled out are those of the text. -/
theorem lefts_spelled (ws : List Written) :
    (spelled ws).filterMap Sum.getLeft? = (String.join (texts ws)).toList := by
  induction ws with
  | nil => rfl
  | cons w ws ih =>
    rw [spelled, List.flatMap_cons, List.filterMap_append, ← spelled, ih]
    cases w with
    | text words =>
      have hw : (Written.text words).letters.filterMap Sum.getLeft? = words.toList := by
        rw [letters, List.filterMap_map]
        exact List.filterMap_some
      rw [hw, ← String.toList_append, ← String.join_cons]
      rfl
    | call callId => rfl

/-- The calls that are spelled out are those that were written. -/
theorem rights_spelled (ws : List Written) : (spelled ws).filterMap Sum.getRight? = calls ws := by
  induction ws with
  | nil => rfl
  | cons w ws ih =>
    rw [spelled, List.flatMap_cons, List.filterMap_append, ← spelled, ih]
    cases w with
    | text words =>
      have hw : (Written.text words).letters.filterMap Sum.getRight? = [] := by
        rw [letters, List.filterMap_map, List.filterMap_eq_nil_iff]
        exact fun _ _ => rfl
      rw [hw]
      rfl
    | call callId => rfl

theorem join_texts_of_spelled (h : spelled ws = spelled ws') :
    String.join (texts ws) = String.join (texts ws') := by
  rw [← String.toList_inj, ← lefts_spelled, h, lefts_spelled]

theorem join_texts_of_blank (h : spelled ws = []) : String.join (texts ws) = "" :=
  join_texts_of_spelled (show spelled ws = spelled [] from h)

theorem calls_of_spelled (h : spelled ws = spelled ws') : calls ws = calls ws' := by
  rw [← rights_spelled, h, rights_spelled]

/-! ## Reading what is spelled out -/

/-- No call is spelled out within a text. -/
theorem letters_append_eq {words callId : String} {as bs rest : List (Char ⊕ String)}
    (h : letters (.text words) ++ rest = as ++ .inr callId :: bs) :
    ∃ as', as = letters (.text words) ++ as' ∧ rest = as' ++ .inr callId :: bs := by
  rcases List.append_eq_append_iff.1 h with ⟨as', ha, hr⟩ | ⟨cs, hw, hc⟩
  · exact ⟨as', ha, hr⟩
  · cases cs with
    | nil =>
      rw [List.append_nil] at hw
      exact ⟨[], by rw [hw, List.append_nil], hc.symm⟩
    | cons c cs =>
      obtain ⟨rfl, _⟩ := List.cons.inj hc
      have hmem : Sum.inr callId ∈ letters (.text words) :=
        hw ▸ List.mem_append_right _ List.mem_cons_self
      obtain ⟨_, _, hn⟩ := List.mem_map.1 hmem
      exact nomatch hn

/-- A call that is spelled out was written, between what is spelled out before it and after. -/
theorem exists_of_spelled {callId : String} {as bs : List (Char ⊕ String)}
    (h : spelled ws = as ++ .inr callId :: bs) : ∃ earlier later,
      ws = earlier ++ .call callId :: later ∧ spelled earlier = as ∧ spelled later = bs := by
  induction ws generalizing as with
  | nil => exact absurd h.symm (List.append_ne_nil_of_right_ne_nil _ (List.cons_ne_nil _ _))
  | cons w ws ih =>
    cases w with
    | text words =>
      obtain ⟨as', rfl, hr⟩ := letters_append_eq h
      obtain ⟨earlier, later, rfl, rfl, rfl⟩ := ih hr
      exact ⟨.text words :: earlier, later, rfl, rfl, rfl⟩
    | call callId' =>
      have h : .inr callId' :: spelled ws = as ++ .inr callId :: bs := h
      cases as with
      | nil =>
        obtain ⟨hc, rfl⟩ := List.cons.inj h
        obtain rfl := Sum.inr.inj hc
        exact ⟨[], ws, rfl, rfl, rfl⟩
      | cons a as =>
        obtain ⟨rfl, hr⟩ := List.cons.inj h
        obtain ⟨earlier, later, rfl, rfl, rfl⟩ := ih hr
        exact ⟨.call callId' :: earlier, later, rfl, rfl, rfl⟩

/-- The pieces of text that come first, up to the first call. -/
theorem exists_pieces (ws : List Written) : ∃ (pieces : List String) (later : List Written),
    ws = pieces.map .text ++ later ∧ ∀ w ∈ later.head?, w.isCall = true := by
  induction ws with
  | nil => exact ⟨[], [], rfl, fun w hw => absurd hw (Option.not_mem_none w)⟩
  | cons w ws ih =>
    cases w with
    | text words =>
      obtain ⟨pieces, later, rfl, hl⟩ := ih
      exact ⟨words :: pieces, later, rfl, hl⟩
    | call callId => exact ⟨[], .call callId :: ws, rfl, fun w hw => Option.some.inj hw ▸ rfl⟩

theorem letters_text_append (words more : String) :
    letters (.text (words ++ more)) = letters (.text words) ++ letters (.text more) := by
  rw [letters, String.toList_append, List.map_append]
  rfl

theorem letters_text_injective {words words' : String}
    (h : letters (.text words) = letters (.text words')) : words = words' :=
  String.toList_inj.1 (List.map_injective_iff.2 (fun _ _ => Sum.inl.inj) h)

theorem spelled_pieces (pieces : List String) :
    spelled (pieces.map .text) = letters (.text (String.join pieces)) := by
  induction pieces with
  | nil => rfl
  | cons words pieces ih =>
    rw [List.map_cons, spelled, List.flatMap_cons, ← spelled, ih, String.join_cons,
      letters_text_append]

/-- Spelling starts with as many characters as there are before the first call. -/
theorem takeWhile_spelled {later : List Written} (hl : ∀ w ∈ later.head?, w.isCall = true)
    (words : String) :
    (letters (.text words) ++ spelled later).takeWhile Sum.isLeft = letters (.text words) := by
  rw [List.takeWhile_append_of_pos]
  · cases later with
    | nil => exact List.append_nil _
    | cons w later =>
      cases w with
      | text words' => exact Bool.noConfusion (hl _ rfl)
      | call callId => exact List.append_nil _
  · intro a ha
    obtain ⟨c, _, rfl⟩ := List.mem_map.1 ha
    rfl

/-- A text that is spelled out before the first call is what was written before it. -/
theorem join_of_spelled {words : String} {later : List Written}
    (hl : ∀ w ∈ later.head?, w.isCall = true)
    (h : spelled ws = letters (.text words) ++ spelled later) :
    ∃ (pieces : List String) (later' : List Written),
      ws = pieces.map .text ++ later' ∧ words = String.join pieces ∧
        ∀ w ∈ later'.head?, w.isCall = true := by
  obtain ⟨pieces, later', rfl, hl'⟩ := exists_pieces ws
  refine ⟨pieces, later', rfl, letters_text_injective ?_, hl'⟩
  rw [spelled_append, spelled_pieces] at h
  rw [← takeWhile_spelled hl, ← h, takeWhile_spelled hl']

/-! ## Tidy outlines -/

theorem tidy_nil : Tidy [] where
  nonempty := List.not_mem_nil
  apart := .nil

theorem tidy_concat_iff {w : Written} : Tidy (ws ++ [w]) ↔
    Tidy ws ∧ w ≠ .text "" ∧ ∀ w' ∈ ws.getLast?, w'.isCall = true ∨ w.isCall = true := by
  refine ⟨fun h => ?_, fun ⟨h, hn, hl⟩ => ⟨?_, ?_⟩⟩
  · obtain ⟨ha, _, hl⟩ := List.isChain_append.1 h.apart
    exact ⟨⟨fun hm => h.nonempty (List.mem_append_left _ hm), ha⟩,
      fun he => h.nonempty (List.mem_append_right _ (he ▸ List.mem_cons_self)),
      fun w' hw' => hl w' hw' w rfl⟩
  · rw [List.mem_append, List.mem_singleton]
    exact fun hm => hm.elim h.nonempty fun he => hn he.symm
  · refine List.isChain_append.2 ⟨h.apart, .singleton w, fun w' hw' w'' hw'' => ?_⟩
    obtain rfl := Option.some.inj hw''
    exact hl w' hw'

end Written

open Written

/-- A segment as what was written. -/
def Segment.outline : Segment → Written
  | .text _ words => .text words
  | .tool _ e => .call e.callId

namespace Segment

variable {segments segments' : List Segment}

theorem calls_outline (segments : List Segment) :
    calls (segments.map outline) = (segments.filterMap execution?).map (·.callId) := by
  rw [calls, List.filterMap_map, List.map_filterMap]
  refine List.filterMap_congr fun s _ => ?_
  cases s <;> rfl

theorem texts_outline (segments : List Segment) :
    texts (segments.map outline) = segments.filterMap text? := by
  rw [texts, List.filterMap_map]
  refine List.filterMap_congr fun s _ => ?_
  cases s <;> rfl

/-- Text goes to the end of the last segment if that is text. -/
theorem outline_extendLast? {text : String} (h : extendLast? text segments = some segments') :
    ∃ front last, segments.map outline = front ++ [.text last] ∧
      segments'.map outline = front ++ [.text (last ++ text)] := by
  induction segments using extendLast?.induct generalizing segments' with
  | case1 => exact absurd h (Option.some_ne_none _).symm
  | case2 id last =>
    rw [← Option.some.inj h]
    exact ⟨[], last, rfl, rfl⟩
  | case3 => exact absurd h (Option.some_ne_none _).symm
  | case4 s s' rest ih =>
    rw [extendLast?] at h
    obtain ⟨rest', hr, rfl⟩ := Option.map_eq_some_iff.1 h
    obtain ⟨front, last, ho, ho'⟩ := ih hr
    refine ⟨s.outline :: front, last, ?_, ?_⟩
    · rw [List.map_cons, ho, List.cons_append]
    · rw [List.map_cons, ho', List.cons_append]

/-- Else the last segment, if there is one, is a call. -/
theorem isCall_of_extendLast? {text : String} (h : extendLast? text segments = none) :
    ∀ w ∈ (segments.map outline).getLast?, w.isCall = true := by
  induction segments using extendLast?.induct with
  | case1 => exact fun w hw => absurd hw (Option.not_mem_none w)
  | case2 => exact absurd h (Option.some_ne_none _)
  | case3 id e => exact fun w hw => Option.some.inj hw ▸ rfl
  | case4 s s' rest ih =>
    rw [extendLast?, Option.map_eq_none_iff] at h
    rw [List.map_cons, List.map_cons, List.getLast?_cons_cons, ← List.map_cons]
    exact ih h

/-- News of a call leaves the outline alone if the call has a segment. -/
theorem outline_mergeCall? {u : ToolUpdate} (h : mergeCall? u segments = some segments') :
    segments'.map outline = segments.map outline := by
  induction segments generalizing segments' with
  | nil => exact absurd h (Option.some_ne_none _).symm
  | cons s rest ih =>
    cases s with
    | text id words =>
      obtain ⟨rest', hr, rfl⟩ := Option.map_eq_some_iff.1 h
      rw [List.map_cons, List.map_cons, ih hr]
    | tool id e =>
      rw [mergeCall?] at h
      split at h
      · rw [← Option.some.inj h]
        rfl
      · obtain ⟨rest', hr, rfl⟩ := Option.map_eq_some_iff.1 h
        rw [List.map_cons, List.map_cons, ih hr]

end Segment

namespace Message

/-- What the segments of a message say. -/
def outline (m : Message) : List Written :=
  m.segments.map Segment.outline

/-- The identifiers of the calls of a message, in order. -/
def callIds (m : Message) : List String :=
  m.executions.map (·.callId)

theorem calls_outline (m : Message) : calls m.outline = m.callIds :=
  Segment.calls_outline m.segments

/-- One message is another one to which something was written: it is added to the content and
    spelled out at the end of the outline, which stays tidy. -/
structure Gains (m : Message) (ws : List Written) (m' : Message) : Prop where
  isAssistant : m'.isAssistant = m.isAssistant
  content : m'.content = m.content ++ String.join (texts ws)
  spelled : spelled m'.outline = spelled m.outline ++ spelled ws
  tidy : Tidy m.outline → Tidy m'.outline

variable {m m' m'' : Message} {ws ws' : List Written}

theorem Gains.refl (m : Message) : m.Gains [] m where
  isAssistant := rfl
  content := String.append_empty.symm
  spelled := (List.append_nil _).symm
  tidy h := h

theorem gains_blank (m : Message) (h : Written.spelled ws = []) : m.Gains ws m where
  isAssistant := rfl
  content := by rw [join_texts_of_blank h, String.append_empty]
  spelled := by rw [h, List.append_nil]
  tidy h := h

theorem Gains.trans (h : m.Gains ws m') (h' : m'.Gains ws' m'') : m.Gains (ws ++ ws') m'' where
  isAssistant := h'.isAssistant.trans h.isAssistant
  content := by rw [h'.content, h.content, texts_append, String.join_append, String.append_assoc]
  spelled := by rw [h'.spelled, h.spelled, spelled_append, List.append_assoc]
  tidy := h'.tidy ∘ h.tidy

/-- A message gains the calls that are new. -/
theorem Gains.callIds (h : m.Gains ws m') : m'.callIds = m.callIds ++ calls ws := by
  rw [← calls_outline, ← calls_outline, ← rights_spelled, h.spelled, List.filterMap_append,
    rights_spelled, rights_spelled]

/-- A piece of text goes to the end of the last segment, or into a new one. -/
theorem gains_text (m : Message) {text : String} {segments : List Segment}
    (hs : spelled (segments.map Segment.outline) = spelled m.outline ++ letters (.text text))
    (ht : Tidy m.outline → Tidy (segments.map Segment.outline)) :
    m.Gains [.text text] { m with content := m.content ++ text, segments } where
  isAssistant := rfl
  content := by rw [join_texts_singleton]
  spelled := by rw [spelled_singleton]; exact hs
  tidy := ht

theorem gains_appendText (m : Message) (ids : Ids) (text : String) :
    m.Gains [.text text] (m.appendText ids text).1 := by
  unfold appendText
  split
  · next ht =>
    subst ht
    exact { Gains.refl m with content := by rw [join_texts_singleton, String.append_empty] }
  · next ht =>
    split
    · next segments h =>
      obtain ⟨front, last, ho, ho'⟩ := Segment.outline_extendLast? h
      refine m.gains_text ?_ fun htidy => ?_
      · rw [ho', outline, ho, spelled_append, spelled_append, spelled_singleton,
          spelled_singleton, letters_text_append, List.append_assoc]
      · rw [outline, ho, tidy_concat_iff] at htidy
        rw [ho', tidy_concat_iff]
        refine ⟨htidy.1, fun he => ht ?_, htidy.2.2⟩
        exact (String.append_eq_empty_iff.1 (Written.text.inj he)).2
    · next h =>
      refine m.gains_text ?_ fun htidy => ?_
      · rw [List.map_append, spelled_append, List.map_singleton, spelled_singleton]
        rfl
      · rw [List.map_append]
        refine tidy_concat_iff.2 ⟨htidy, fun he => ht (Written.text.inj he), fun w hw => ?_⟩
        exact .inl (Segment.isCall_of_extendLast? h w hw)

/-- News of a call adds nothing, or the call. -/
theorem gains_applyUpdate (m : Message) (u : ToolUpdate) (create : Bool) :
    ∃ callIds : List String, m.Gains (callIds.map .call) (m.applyUpdate u create).2 := by
  unfold applyUpdate
  split
  · next segments h =>
    have ho : (Message.mk m.id m.role m.content m.createdAt m.streaming segments m.usage).outline =
        m.outline := Segment.outline_mergeCall? h
    refine ⟨[], { Gains.refl m with spelled := ?_, tidy := ?_ }⟩
    · rw [ho]
      exact (Gains.refl m).spelled
    · rw [ho]
      exact fun h => h
  · split
    · refine ⟨[u.callId], { Gains.refl m with spelled := ?_, tidy := ?_ }⟩
      · rw [outline, List.map_append, spelled_append]
        rfl
      · intro h
        rw [outline, List.map_append]
        exact tidy_concat_iff.2 ⟨h, nofun, fun _ _ => .inr rfl⟩
    · exact ⟨[], .refl m⟩

theorem gains_applyPending (m : Message) (us : List ToolUpdate) :
    ∃ callIds : List String, m.Gains (callIds.map .call) (m.applyPending us).2 := by
  induction us using List.reverseRecOn with
  | nil => exact ⟨[], .refl m⟩
  | append_singleton us u ih =>
    obtain ⟨callIds, hm⟩ := ih
    obtain ⟨callIds', hm'⟩ := (m.applyPending us).2.gains_applyUpdate u true
    rw [applyPending_concat]
    refine ⟨callIds ++ callIds', ?_⟩
    rw [List.map_append]
    exact hm.trans hm'

/-- News of calls adds those that begin with it. -/
theorem gains_write (m : Message) (ids : Ids) {w : Writing} (hw : ∀ words, w ≠ .text words) :
    ∃ callIds : List String, m.Gains (callIds.map .call) (m.write ids w) := by
  cases w with
  | text words => exact absurd rfl (hw words)
  | pending us => exact m.gains_applyPending us
  | update u create => exact m.gains_applyUpdate u create

/-! ## Segments as they were written -/

/-- The segments of a message are laid out as it was written. -/
structure LaidOut (m : Message) (ws : List Written) : Prop where
  /-- Its text segments joined are its content. -/
  content : String.join (m.segments.filterMap Segment.text?) = m.content
  nonempty : ∀ words ∈ m.segments.filterMap Segment.text?, words ≠ ""
  /-- No two text segments are adjacent. -/
  apart : m.segments.IsChain fun a b => a.isTool = true ∨ b.isTool = true
  /-- A text segment after a call holds just the pieces that were written since the call began
      and before the next one did. -/
  following : ∀ before id e id' words after,
    m.segments = before ++ .tool id e :: .text id' words :: after →
      ∃ (earlier : List Written) (pieces : List String) (later : List Written),
        ws = earlier ++ .call e.callId :: (pieces.map .text ++ later) ∧
        calls earlier = (before.filterMap Segment.execution?).map (·.callId) ∧
        words = String.join pieces ∧ ∀ w ∈ later.head?, w.isCall = true

theorem laidOut_of_spelled (hc : m.content = String.join (texts ws))
    (hs : Written.spelled m.outline = Written.spelled ws) (ht : Tidy m.outline) :
    m.LaidOut ws where
  content := by rw [← Segment.texts_outline, hc]; exact join_texts_of_spelled hs
  nonempty words hw he := by
    obtain ⟨s, hm, hs⟩ := List.mem_filterMap.1 hw
    cases s with
    | text id words' =>
      obtain rfl := Option.some.inj hs
      exact ht.nonempty (List.mem_map.2 ⟨_, hm, congrArg _ he⟩)
    | tool id e => exact nomatch hs
  apart := by
    refine ((List.isChain_map _).1 ht.apart).imp fun a b h => ?_
    cases a <;> cases b <;> exact h
  following := by
    intro before id e id' words after h
    have ho : m.outline = before.map Segment.outline ++
        .call e.callId :: .text words :: after.map Segment.outline := by
      rw [outline, h, List.map_append]
      rfl
    -- What comes after the text is a call, since the outline is tidy.
    have hnext : ∀ w ∈ (after.map Segment.outline).head?, w.isCall = true := by
      have ha := ht.apart
      rw [ho] at ha
      exact fun w hw => ((List.isChain_cons.1 ha.right_of_append.tail).1 w hw).resolve_left nofun
    rw [ho, spelled_append] at hs
    obtain ⟨earlier, later, rfl, he, hl⟩ := exists_of_spelled hs.symm
    obtain ⟨pieces, later', rfl, hw, hn⟩ := join_of_spelled hnext hl
    refine ⟨earlier, pieces, later', rfl, ?_, hw, hn⟩
    rw [calls_of_spelled he, Segment.calls_outline]

end Message

end Dialogue
