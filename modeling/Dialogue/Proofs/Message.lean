import Dialogue.Proofs.Transcript
import Mathlib.Data.List.Induction

/-!
# How a message goes on

A message *extends* another one (`Message.Extends`) if it is that message with more
written to it: the same message by the same author, whose text and segments may have
gone on at their ends. A text segment may have got longer and a call may have
changed, but it is the same call in the same place.

* `extends_appendText`, `extends_applyUpdate`, `extends_applyPending`: whatever events
  write to a message, it extends what was there before;
* `hasContent_appendText`, `hasContent_applyUpdate`, `changed_applyPending`: what
  events change has something to show;
* `extends_write`: the same for whatever can be written (`Writing`);
* `mergeCall?_of_grows`: news of a call finds the segment that the call had before.
-/

namespace Dialogue

/-! ## Lists that go on -/

/-- Position by position, the elements of one list go on as those of another, which may
    have more at its end. -/
inductive Grows {α : Type} (R : α → α → Prop) : List α → List α → Prop
  | nil (bs : List α) : Grows R [] bs
  | cons {a b : α} {as bs : List α} : R a b → Grows R as bs → Grows R (a :: as) (b :: bs)

namespace Grows

variable {α : Type} {R : α → α → Prop} {as bs cs : List α}

theorem refl (hr : ∀ a, R a a) (as : List α) : Grows R as as := by
  induction as with
  | nil => exact .nil []
  | cons a as ih => exact .cons (hr a) ih

theorem trans (ht : ∀ a b c, R a b → R b c → R a c) (h : Grows R as bs) (h' : Grows R bs cs) :
    Grows R as cs := by
  induction h generalizing cs with
  | nil => exact .nil cs
  | cons hab _ ih =>
    cases h' with
    | cons hbc h' => exact .cons (ht _ _ _ hab hbc) (ih h')

/-- More at the end of the longer list. -/
theorem append (h : Grows R as bs) (more : List α) : Grows R as (bs ++ more) := by
  induction h with
  | nil bs => exact .nil _
  | cons hr _ ih => exact .cons hr ih

/-- The same elements before both lists. -/
theorem append_left (hr : ∀ a, R a a) (before : List α) (h : Grows R as bs) :
    Grows R (before ++ as) (before ++ bs) := by
  induction before with
  | nil => exact h
  | cons a before ih => exact .cons (hr a) ih

theorem length_le (h : Grows R as bs) : as.length ≤ bs.length := by
  induction h with
  | nil => exact Nat.zero_le _
  | cons _ _ ih => exact Nat.succ_le_succ ih

/-- Every element is still in its place. -/
theorem getElem? (h : Grows R as bs) {i : Nat} {a : α} (ha : as[i]? = some a) :
    ∃ b, bs[i]? = some b ∧ R a b := by
  induction h generalizing i with
  | nil => exact absurd ha (Option.some_ne_none a).symm
  | cons hr _ ih =>
    cases i with
    | zero => exact ⟨_, rfl, Option.some.inj ha ▸ hr⟩
    | succ i => exact ih ha

theorem exists_of_mem (h : Grows R as bs) {a : α} (ha : a ∈ as) : ∃ b ∈ bs, R a b := by
  obtain ⟨i, hi⟩ := List.mem_iff_getElem?.1 ha
  obtain ⟨b, hb, hr⟩ := h.getElem? hi
  exact ⟨b, List.mem_of_getElem? hb, hr⟩

end Grows

/-! ## Segments -/

/-- A segment goes on: it stays of its kind and keeps its identifier, text only gets
    longer, and a call stays the same call. -/
inductive Segment.Extends : Segment → Segment → Prop
  | text (id words more : String) : Extends (.text id words) (.text id (words ++ more))
  | tool (id : String) {e e' : ToolExecution} : e'.callId = e.callId →
      Extends (.tool id e) (.tool id e')

namespace Segment

theorem Extends.refl (s : Segment) : s.Extends s := by
  cases s with
  | text id words =>
    have h := Extends.text id words ""
    rwa [String.append_empty] at h
  | tool id e => exact .tool id rfl

theorem Extends.trans {s s' s'' : Segment} (h : s.Extends s') (h' : s'.Extends s'') :
    s.Extends s'' := by
  cases h with
  | text id words more =>
    cases h' with
    | text _ _ more' =>
      rw [String.append_assoc]
      exact .text id words _
  | tool id hc =>
    cases h' with
    | tool _ hc' => exact .tool id (hc'.trans hc)

theorem grows_refl (segments : List Segment) : Grows Extends segments segments :=
  .refl Extends.refl segments

theorem grows_extendLast? {text : String} {segments segments' : List Segment}
    (h : extendLast? text segments = some segments') : Grows Extends segments segments' := by
  induction segments using extendLast?.induct generalizing segments' with
  | case1 => exact .nil _
  | case2 id last =>
    rw [← Option.some.inj h]
    exact .cons (.text id last text) (.nil _)
  | case3 => exact absurd h (Option.some_ne_none _).symm
  | case4 s s' rest ih =>
    rw [extendLast?] at h
    obtain ⟨rest', hr, rfl⟩ := Option.map_eq_some_iff.1 h
    exact .cons (.refl s) (ih hr)

theorem grows_mergeCall? {u : ToolUpdate} {segments segments' : List Segment}
    (h : mergeCall? u segments = some segments') : Grows Extends segments segments' := by
  induction segments generalizing segments' with
  | nil => exact .nil _
  | cons s rest ih =>
    cases s with
    | text id words =>
      obtain ⟨rest', hr, rfl⟩ := Option.map_eq_some_iff.1 h
      exact .cons (.refl _) (ih hr)
    | tool id e =>
      rw [mergeCall?] at h
      split at h
      · -- The call is found, and merging keeps its identifier.
        rw [← Option.some.inj h]
        exact .cons (.tool id rfl) (grows_refl rest)
      · obtain ⟨rest', hr, rfl⟩ := Option.map_eq_some_iff.1 h
        exact .cons (.refl _) (ih hr)

/-- News of a call is merged nowhere if no segment is of that call. -/
theorem mergeCall?_eq_none {u : ToolUpdate} {segments : List Segment}
    (h : ∀ e ∈ segments.filterMap execution?, e.callId ≠ u.callId) :
    mergeCall? u segments = none := by
  induction segments with
  | nil => rfl
  | cons s rest ih =>
    cases s with
    | text id words => rw [mergeCall?, ih h, Option.map_none]
    | tool id e =>
      have he : e.callId ≠ u.callId := h e List.mem_cons_self
      rw [mergeCall?, if_neg he, ih fun e he => h e (List.mem_cons_of_mem _ he), Option.map_none]

/-- News of a call goes to its first segment and leaves that in its place. That is the segment
    which the call had before the segments went on. -/
theorem mergeCall?_of_grows {callId : String} {segments segments' : List Segment}
    (h : Grows Extends segments segments')
    (hc : ∃ e ∈ segments.filterMap execution?, e.callId = callId) :
    ∃ (k : Nat) (id : String) (e e' : ToolExecution), segments[k]? = some (.tool id e) ∧
      e.callId = callId ∧ segments'[k]? = some (.tool id e') ∧
      ∀ u : ToolUpdate, u.callId = callId →
        mergeCall? u segments' = some (segments'.set k (.tool id (e'.merge u))) := by
  induction h with
  | nil => exact absurd hc fun ⟨_, he, _⟩ => List.not_mem_nil he
  | @cons a b as bs hr hg ih =>
    cases hr with
    | text id words more =>
      obtain ⟨k, id', e, e', hk, he, hk', hm⟩ := ih hc
      refine ⟨k + 1, id', e, e', hk, he, hk', fun u hu => ?_⟩
      rw [mergeCall?, hm u hu]
      rfl
    | @tool id e e' heq =>
      by_cases he : e.callId = callId
      · refine ⟨0, id, e, e', rfl, he, rfl, fun u hu => ?_⟩
        rw [mergeCall?, if_pos (heq.trans (he.trans hu.symm))]
        rfl
      · -- The segment is of another call, and stays so.
        obtain ⟨c, hc, hcid⟩ := hc
        have hc' : c ∈ as.filterMap execution? := by
          rcases List.mem_cons.1 hc with rfl | hc
          · exact absurd hcid he
          · exact hc
        obtain ⟨k, id', d, d', hk, hd, hk', hm⟩ := ih ⟨c, hc', hcid⟩
        refine ⟨k + 1, id', d, d', hk, hd, hk', fun u hu => ?_⟩
        rw [mergeCall?, if_neg fun h => he (heq.symm.trans (h.trans hu)), hm u hu]
        rfl

end Segment

/-! ## Messages -/

namespace Message

/-- One message goes on as another: the same message of the same author, whose text and
    segments may have gone on. -/
structure Extends (m m' : Message) : Prop where
  id : m'.id = m.id
  role : m'.role = m.role
  createdAt : m'.createdAt = m.createdAt
  content : ∃ more, m'.content = m.content ++ more
  segments : Grows Segment.Extends m.segments m'.segments

/-- Whether a message is being written, and what it used, is not what it says. -/
theorem extends_marked (m : Message) (streaming : Bool) (usage : Option Usage) :
    m.Extends { m with streaming, usage } where
  id := rfl
  role := rfl
  createdAt := rfl
  content := ⟨"", String.append_empty.symm⟩
  segments := Segment.grows_refl _

theorem Extends.refl (m : Message) : m.Extends m :=
  m.extends_marked m.streaming m.usage

theorem Extends.trans {m m' m'' : Message} (h : m.Extends m') (h' : m'.Extends m'') :
    m.Extends m'' where
  id := h'.id.trans h.id
  role := h'.role.trans h.role
  createdAt := h'.createdAt.trans h.createdAt
  content := by
    obtain ⟨more, hm⟩ := h.content
    obtain ⟨more', hm'⟩ := h'.content
    exact ⟨more ++ more', by rw [hm', hm, String.append_assoc]⟩
  segments := h.segments.trans (fun _ _ _ => Segment.Extends.trans) h'.segments

/-- A message whose segments have gone on. -/
theorem extends_segments (m : Message) {segments : List Segment}
    (h : Grows Segment.Extends m.segments segments) : m.Extends { m with segments } :=
  { Extends.refl m with segments := h }

theorem Extends.isAssistant {m m' : Message} (h : m.Extends m') :
    m'.isAssistant = m.isAssistant := by
  rw [Message.isAssistant, h.role, Message.isAssistant]

/-! ## What events write -/

theorem extends_appendText (m : Message) (ids : Ids) (text : String) :
    m.Extends (m.appendText ids text).1 := by
  unfold appendText
  split
  · exact .refl m
  · split
    · next h => exact { Extends.refl m with
        content := ⟨text, rfl⟩, segments := Segment.grows_extendLast? h }
    · exact { Extends.refl m with
        content := ⟨text, rfl⟩, segments := (Segment.grows_refl _).append _ }

theorem extends_applyUpdate (m : Message) (u : ToolUpdate) (create : Bool) :
    m.Extends (m.applyUpdate u create).2 := by
  unfold applyUpdate
  split
  · next h => exact m.extends_segments (Segment.grows_mergeCall? h)
  · split
    · exact m.extends_segments ((Segment.grows_refl _).append _)
    · exact .refl m

/-- Updates are applied one after the other. -/
theorem applyPending_concat (m : Message) (us : List ToolUpdate) (u : ToolUpdate) :
    m.applyPending (us ++ [u]) =
      ((m.applyPending us).1 || ((m.applyPending us).2.applyUpdate u true).1.changed,
        ((m.applyPending us).2.applyUpdate u true).2) := by
  rw [applyPending, List.foldl_append]
  rfl

theorem extends_applyPending (m : Message) (us : List ToolUpdate) :
    m.Extends (m.applyPending us).2 := by
  induction us using List.reverseRecOn with
  | nil => exact .refl m
  | append_singleton us u ih =>
    rw [applyPending_concat]
    exact ih.trans (extends_applyUpdate _ u true)

/-! ## What events do not write

The account of a message is not written by what is written to the message. -/

theorem usage_appendText (m : Message) (ids : Ids) (text : String) :
    (m.appendText ids text).1.usage = m.usage := by
  unfold appendText
  split
  · rfl
  · split <;> rfl

theorem usage_applyUpdate (m : Message) (u : ToolUpdate) (create : Bool) :
    (m.applyUpdate u create).2.usage = m.usage := by
  unfold applyUpdate
  split
  · rfl
  · split <;> rfl

theorem usage_applyPending (m : Message) (us : List ToolUpdate) :
    (m.applyPending us).2.usage = m.usage := by
  induction us using List.reverseRecOn with
  | nil => rfl
  | append_singleton us u ih =>
    rw [applyPending_concat]
    exact (usage_applyUpdate _ u true).trans ih

/-! ## Something to show -/

theorem hasContent_of_segments {m : Message} (h : m.segments ≠ []) : m.hasContent = true := by
  rw [hasContent, Bool.or_eq_true, Bool.not_eq_true', List.isEmpty_eq_false_iff]
  exact .inr h

theorem hasContent_appendText (m : Message) (ids : Ids) {text : String} (h : text ≠ "") :
    (m.appendText ids text).1.hasContent = true := by
  rw [hasContent, Bool.or_eq_true, bne_iff_ne]
  left
  have hc : (m.appendText ids text).1.content = m.content ++ text := by
    rw [appendText, if_neg h]
    split <;> rfl
  rw [hc]
  exact fun he => h (String.append_eq_empty_iff.1 he).2

theorem hasContent_applyUpdate (m : Message) (u : ToolUpdate) (create : Bool)
    (h : (m.applyUpdate u create).1.changed = true) :
    (m.applyUpdate u create).2.hasContent = true := by
  unfold applyUpdate at h ⊢
  split
  · next segments hs =>
    -- There are as many segments as before, and the one of the call is among them.
    refine hasContent_of_segments fun he => ?_
    have hl := (Segment.grows_mergeCall? hs).length_le
    rw [show segments = [] from he] at hl
    rw [List.eq_nil_of_length_eq_zero (Nat.le_zero.1 hl)] at hs
    exact absurd hs (Option.some_ne_none _).symm
  · next hs =>
    rw [hs] at h
    cases create with
    | true =>
      exact hasContent_of_segments (List.append_ne_nil_of_right_ne_nil _ (List.cons_ne_nil _ _))
    | false => exact absurd h Bool.noConfusion

/-- An update that does not change the message is not written to it. -/
theorem applyUpdate_of_ignored (m : Message) (u : ToolUpdate) {create : Bool}
    (h : ¬(m.applyUpdate u create).1.changed = true) : (m.applyUpdate u create).2 = m := by
  unfold applyUpdate at h ⊢
  split at h
  · exact absurd rfl h
  · split at h
    · exact absurd rfl h
    · next hn => rw [if_neg hn]

/-- An update that may create a segment changes the message. -/
theorem changed_applyUpdate (m : Message) (u : ToolUpdate) :
    (m.applyUpdate u true).1.changed = true := by
  unfold applyUpdate
  split <;> rfl

/-- So do updates of pending calls, if there are any. -/
theorem changed_applyPending (m : Message) {us : List ToolUpdate} (h : us ≠ []) :
    (m.applyPending us).1 = true ∧ (m.applyPending us).2.hasContent = true := by
  cases us using List.reverseRecOn with
  | nil => exact absurd rfl h
  | append_singleton us u =>
    have hc := (m.applyPending us).2.changed_applyUpdate u
    rw [applyPending_concat]
    exact ⟨by rw [hc, Bool.or_true], hasContent_applyUpdate _ u true hc⟩

/-- A message that goes on still has something to show. -/
theorem Extends.hasContent {m m' : Message} (h : m.Extends m') (hc : m.hasContent = true) :
    m'.hasContent = true := by
  rw [Message.hasContent, Bool.or_eq_true, bne_iff_ne] at hc
  rcases hc with hc | hs
  · obtain ⟨more, hm⟩ := h.content
    rw [Message.hasContent, hm, Bool.or_eq_true, bne_iff_ne]
    exact .inl fun he => hc (String.append_eq_empty_iff.1 he).1
  · refine hasContent_of_segments fun he => ?_
    have hl := h.segments.length_le
    rw [he, List.length_nil, Nat.le_zero, List.length_eq_zero_iff] at hl
    rw [hl] at hs
    exact Bool.noConfusion hs

end Message

/-- A message that goes on keeps its identifier. -/
theorem Grows.map_id_prefix {ms ms' : List Message} (h : Grows Message.Extends ms ms') :
    ms.map (·.id) <+: ms'.map (·.id) := by
  induction h with
  | nil bs => exact List.nil_prefix
  | cons hm _ ih =>
    rw [List.map_cons, List.map_cons, hm.id]
    exact List.cons_prefix_cons.2 ⟨rfl, ih⟩

/-! ## Whatever is written -/

/-- What can be written to a message: a piece of text, news of pending calls, and news of one
    call, which may begin with it. -/
inductive Writing where
  | text (words : String)
  | pending (updates : List ToolUpdate)
  | update (u : ToolUpdate) (create : Bool)
  deriving DecidableEq, Repr

namespace Message

/-- Write to a message. -/
def write (m : Message) (ids : Ids) : Writing → Message
  | .text words => (m.appendText ids words).1
  | .pending us => (m.applyPending us).2
  | .update u create => (m.applyUpdate u create).2

theorem extends_write (m : Message) (ids : Ids) (w : Writing) : m.Extends (m.write ids w) := by
  cases w with
  | text words => exact m.extends_appendText ids words
  | pending us => exact m.extends_applyPending us
  | update u create => exact m.extends_applyUpdate u create

theorem streaming_write (m : Message) (ids : Ids) (w : Writing) :
    (m.write ids w).streaming = m.streaming := by
  cases w with
  | text words => exact m.streaming_appendText ids words
  | pending us => exact m.streaming_applyPending us
  | update u create => exact m.streaming_applyUpdate u create

/-- Pending calls are written one after the other. -/
theorem write_pending_concat (m : Message) (ids : Ids) (us : List ToolUpdate) (u : ToolUpdate) :
    m.write ids (.pending (us ++ [u])) =
      (m.write ids (.pending us)).write ids (.update u true) := by
  rw [write, applyPending_concat]
  rfl

end Message

end Dialogue
