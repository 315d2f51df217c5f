import Dialogue.Proofs.Message.Stable
import Dialogue.Proofs.Transcript.Growth
import Mathlib.Algebra.Order.Group.Multiset

/-!
# Any use of a transcript

A session uses its transcript in an orderly way. Whoever holds one may also do anything else
with it, in any order and for any generations (`Transcript.Operation`): several operations
finalize a message of another generation on their own, and finalizing may drop it.

Still nothing is lost that has something to show or was taken back to be continued
(`Transcript.lastingMessages`), once it was brought into the transcript (`Transcript.brought`).
Each such message has one of its own that goes on from it (`Retains`), among the messages of the
transcript or those that were taken out of it.

* `Marked.perform`: exactly the message in progress is streaming, after any operation;
* `finalized_perform`, `perform_takeLastAssistant`: the finalized messages only get more, until the
  last one is taken back;
* `current?_of_written?`, `shows_of_written?`: a message that is written to is in progress then,
  and shows what was written;
* `retains_perform`, `retains_after`: what one operation retains, with what it brings, and then
  any number of them;
* `any_use_retains`: what is known of a transcript after any use.
-/

namespace Dialogue

instance : IsTrans Message Message.Extends where
  trans _ _ _ := Message.Extends.trans

/-! ## Messages that go on -/

/-- Each of some messages has one of its own among others, which goes on from it. -/
def Retains (ms ms' : Multiset Message) : Prop :=
  ∃ kept ≤ ms', Multiset.Rel Message.Extends ms kept

namespace Retains

variable {ms ms' ms'' more : Multiset Message}

theorem of_rel (h : Multiset.Rel Message.Extends ms ms') : Retains ms ms' :=
  ⟨ms', le_rfl, h⟩

theorem of_le (h : ms ≤ ms') : Retains ms ms' :=
  ⟨ms, h, Multiset.rel_refl_of_refl_on fun m _ => .refl m⟩

theorem of_eq (h : ms = ms') : Retains ms ms' :=
  of_le h.le

theorem refl (ms : Multiset Message) : Retains ms ms :=
  of_eq rfl

theorem trans (h : Retains ms ms') (h' : Retains ms' ms'') : Retains ms ms'' := by
  obtain ⟨kept, hk, hr⟩ := h
  obtain ⟨kept', hk', hr'⟩ := h'
  -- Those that were kept first have their own among those that were kept then.
  obtain ⟨rest, rfl⟩ := Multiset.le_iff_exists_add.1 hk
  obtain ⟨own, others, ho, _, rfl⟩ := Multiset.rel_add_left.1 hr'
  exact ⟨own, le_trans (Multiset.le_add_right own others) hk', hr.trans _ ho⟩

theorem add {more more' : Multiset Message} (h : Retains ms ms') (h' : Retains more more') :
    Retains (ms + more) (ms' + more') := by
  obtain ⟨kept, hk, hr⟩ := h
  obtain ⟨kept', hk', hr'⟩ := h'
  exact ⟨kept + kept', add_le_add hk hk', hr.add hr'⟩

theorem add_right (h : Retains ms ms') (more : Multiset Message) :
    Retains (ms + more) (ms' + more) :=
  h.add (refl more)

theorem le_add_right (h : Retains ms ms') (more : Multiset Message) :
    Retains ms (ms' + more) :=
  h.trans (of_le (Multiset.le_add_right ms' more))

/-- Messages that are changed, each so that it goes on. -/
theorem map {f : Message → Message} (h : ∀ m : Message, m.Extends (f m)) (ms : List Message) :
    Retains ms (ms.map f : List Message) := by
  rw [← Multiset.map_coe]
  exact of_rel (Multiset.rel_map_right.2 (Multiset.rel_refl_of_refl_on fun (m : Message) _ => h m))

/-- The last message goes on, and all others stay. -/
theorem last {before : List Message} {m m' : Message} (h : m.Extends m') :
    Retains (before ++ [m] : List Message) (before ++ [m'] : List Message) := by
  rw [← Multiset.coe_add, ← Multiset.coe_add]
  exact (refl before).add (of_rel (.cons h .zero))

theorem of_sublist {ms ms' : List Message} (h : ms.Sublist ms') : Retains ms ms' :=
  of_le (Multiset.coe_le.2 h.subperm)

end Retains

/-! ## Messages that show what was written -/

/-- What was written last can be seen of a message: a text at its end, and all calls that were to
    begin. -/
def Message.Shows (m : Message) : Writing → Prop
  | .text words => ∃ before, m.content = before ++ words
  | w => ∀ callId ∈ w.created, callId ∈ m.callIds

theorem Message.shows_write (m : Message) (ids : Ids) (w : Writing) : (m.write ids w).Shows w := by
  have hcalls : ∀ callId ∈ w.created, callId ∈ (m.write ids w).callIds := fun callId h => by
    rw [m.callIds_write_append]
    exact mem_append_newCalls h
  cases w with
  | text words =>
    refine ⟨m.content, (m.gains_appendText ids words).content.trans ?_⟩
    rw [Written.join_texts_singleton]
  | pending us => exact hcalls
  | update u create => exact hcalls

namespace Transcript

/-! ## What lasts -/

/-- Whether finalizing keeps the message in progress. -/
def InProgress.lasts (p : InProgress) : Bool :=
  p.message.hasContent || p.resumed

/-- The messages that nothing may drop. -/
def lastingMessages (t : Transcript) : List Message :=
  t.finalized ++ (t.inProgress.filter InProgress.lasts).toList.map (·.message)

variable {t : Transcript}

theorem lastingMessages_of_none (h : t.inProgress = none) : t.lastingMessages = t.finalized := by
  rw [lastingMessages, h]
  exact List.append_nil _

theorem lastingMessages_of_lasts {p : InProgress} (h : t.inProgress = some p)
    (hl : InProgress.lasts p = true) : t.lastingMessages = t.finalized ++ [p.message] := by
  rw [lastingMessages, h, Option.filter_some, if_pos hl]
  rfl

theorem lastingMessages_of_not_lasts {p : InProgress} (h : t.inProgress = some p)
    (hl : InProgress.lasts p = false) : t.lastingMessages = t.finalized := by
  rw [lastingMessages, h, Option.filter_some, if_neg (by rw [hl]; exact Bool.noConfusion)]
  exact List.append_nil _

/-- What was not taken back lasts if there is something to show. -/
theorem lastingMessages_of_not_resumed {p : InProgress} (h : t.inProgress = some p)
    (hr : p.resumed = false) :
    t.lastingMessages = t.finalized ++ ((some p.message).filter (·.hasContent)).toList := by
  have hl : InProgress.lasts p = p.message.hasContent := by
    rw [InProgress.lasts, hr, Bool.or_false]
  rw [lastingMessages, h, Option.filter_some, Option.filter_some, hl]
  split <;> rfl

/-- The messages that last when more are finalized, in whatever order. -/
theorem lastingMessages_finalized_append (t : Transcript) (more : List Message) :
    ({ t with finalized := t.finalized ++ more }.lastingMessages : Multiset Message) =
      t.lastingMessages + more := by
  rw [lastingMessages, lastingMessages, Multiset.coe_add, Multiset.coe_eq_coe, List.append_assoc,
    List.append_assoc]
  exact List.perm_append_comm.append_left _

theorem lastingMessages_sublist (t : Transcript) : t.lastingMessages.Sublist t.messages := by
  refine List.Sublist.append_left ?_ _
  rw [current?]
  cases h : t.inProgress with
  | none => exact .slnil
  | some p =>
    rw [Option.filter_some]
    split
    · exact .refl _
    · exact List.nil_sublist _

/-- What is in progress lasts once it has something to show. -/
theorem mem_lastingMessages {m : Message} (h : t.current? = some m) (hc : m.hasContent = true) :
    m ∈ t.lastingMessages := by
  obtain ⟨p, hp, rfl⟩ := Option.map_eq_some_iff.1 h
  rw [lastingMessages_of_lasts hp (Bool.or_eq_true_iff.2 (.inl hc))]
  exact List.mem_concat_self

/-! ## Any operation -/

/-- Anything that can be done to a transcript, with the identifiers and the time that it takes. -/
inductive Operation where
  | push (m : Message)
  /-- Write to the message in progress of a generation, which is begun if need be. -/
  | writeOrBegin (generation : Nat) (ids : Ids) (now : Int) (w : Writing)
  /-- Write to the message in progress, if it is of a generation. -/
  | writeIfCurrent (generation : Nat) (ids : Ids) (w : Writing)
  | takeLastAssistant
  | resume (generation : Nat) (m : Message)
  | finalize (usage : Option Usage)
  | hydrate (messages : List Message)

/-- Do something to a transcript. -/
def perform (t : Transcript) : Operation → Transcript
  | .push m => t.push m
  | .writeOrBegin generation ids now w =>
    let (m, ids, t) := t.ensureCurrent generation ids now
    t.setCurrent (m.write ids w)
  | .writeIfCurrent generation ids w =>
    match t.currentOf? generation with
    | some m => t.setCurrent (m.write ids w)
    | none => t
  | .takeLastAssistant => t.takeLastAssistant.2
  | .resume generation m => t.resume generation m
  | .finalize usage => (t.finalize usage).2
  | .hydrate messages => (t.hydrate messages).2

/-- The message that an operation takes out of a transcript, if it does. -/
def taken? (t : Transcript) : Operation → Option Message
  | .takeLastAssistant => t.takeLastAssistant.1
  | _ => none

/-- What an operation writes. -/
def Operation.writing? : Operation → Option Writing
  | .writeOrBegin _ _ _ w | .writeIfCurrent _ _ w => some w
  | _ => none

/-- The message in progress as an operation writes it. -/
def written? (t : Transcript) : Operation → Option Message
  | .writeOrBegin generation ids now w =>
    match t.currentOf? generation with
    | some m => some (m.write ids w)
    | none => some ((Message.beginAssistant ids.next now).write ids.advance w)
  | .writeIfCurrent generation ids w => (t.currentOf? generation).map (·.write ids w)
  | _ => none

/-- Whether nothing may drop the message in progress of a generation. -/
def lastsFor (t : Transcript) (generation : Nat) : Bool :=
  t.inProgress.any fun p => p.generation == generation && InProgress.lasts p

/-- The messages that an operation brings into a transcript: those that it is given, and the one
    that it writes, if there is something to show now that could not last before. -/
def brought (t : Transcript) (o : Operation) : List Message :=
  match o with
  | .push m => [m]
  | .resume _ m => [m]
  | .hydrate messages => if t.isEmpty then messages else []
  | .writeOrBegin generation .. | .writeIfCurrent generation .. =>
    if t.lastsFor generation then [] else ((t.written? o).filter (·.hasContent)).toList
  | .takeLastAssistant | .finalize _ => []

/-- Do things to a transcript, one after the other. -/
def after (t : Transcript) (operations : List Operation) : Transcript :=
  operations.foldl perform t

/-- The messages that operations take out of a transcript, in order. -/
def takenBy (t : Transcript) : List Operation → List Message
  | [] => []
  | o :: operations => (t.taken? o).toList ++ (t.perform o).takenBy operations

/-- The messages that operations bring into a transcript, in order. -/
def broughtBy (t : Transcript) : List Operation → List Message
  | [] => []
  | o :: operations => t.brought o ++ (t.perform o).broughtBy operations

/-! ## Streaming -/

theorem Marked.perform (h : t.Marked) (o : Operation) : (t.perform o).Marked := by
  cases o with
  | push m => exact h.push m
  | writeOrBegin generation ids now w =>
    obtain ⟨hm, hs⟩ := h.ensureCurrent generation ids now
    exact hm.setCurrent ((Message.streaming_write _ _ w).trans hs)
  | writeIfCurrent generation ids w =>
    rw [Transcript.perform]
    split
    · next m hm =>
      exact h.setCurrent ((Message.streaming_write _ _ w).trans (h.streaming_of_currentOf? hm))
    · exact h
  | takeLastAssistant => exact h.takeLastAssistant
  | resume generation m => exact h.resume generation m
  | finalize usage => exact h.finalize usage
  | hydrate messages =>
    rw [Transcript.perform, Transcript.hydrate]
    split
    · exact marked_settled messages
    · exact h

theorem Marked.after (h : t.Marked) (operations : List Operation) :
    (t.after operations).Marked := by
  induction operations generalizing t with
  | nil => exact h
  | cons o operations ih => exact ih (h.perform o)

/-- In a marked transcript the message in progress is streaming, if there is one, and no other. -/
theorem Marked.streamingCount (h : t.Marked) :
    t.streamingCount = if t.inProgress.isSome then 1 else 0 := by
  have hf : t.finalized.countP (·.streaming) = 0 :=
    List.countP_eq_zero.2 fun m hm => by rw [h.finalized m hm]; exact Bool.noConfusion
  rw [Transcript.streamingCount, messages, List.countP_append, hf, current?]
  cases hp : t.inProgress with
  | none => rfl
  | some p =>
    rw [Option.map_some, Option.toList_some, List.countP_singleton, h.inProgress p hp]
    rfl

/-! ## The finalized messages -/

theorem finalized_prefix_finalize (t : Transcript) (usage : Option Usage) :
    t.finalized <+: (t.finalize usage).2.finalized := by
  rw [finalized_finalize]
  exact List.prefix_append _ _

theorem finalized_prefix_clearedFor (t : Transcript) (generation : Nat) :
    t.finalized <+: (t.clearedFor generation).finalized := by
  rw [clearedFor]
  split
  · exact List.prefix_refl _
  · exact t.finalized_prefix_finalize none

theorem finalized_ensureCurrent (t : Transcript) (generation : Nat) (ids : Ids) (now : Int) :
    (t.ensureCurrent generation ids now).2.2.finalized = (t.clearedFor generation).finalized := by
  rw [ensureCurrent_eq]
  split <;> rfl

/-- The finalized messages only get more, as long as none is taken back. -/
theorem finalized_perform {o : Operation} (h : o ≠ .takeLastAssistant) :
    t.finalized <+: (t.perform o).finalized := by
  cases o with
  | push m => exact List.prefix_append _ _
  | writeOrBegin generation ids now w =>
    have hf := t.finalized_prefix_clearedFor generation
    rw [← t.finalized_ensureCurrent generation ids now] at hf
    exact hf
  | writeIfCurrent generation ids w =>
    rw [perform]
    split
    · exact List.prefix_refl _
    · exact List.prefix_refl _
  | takeLastAssistant => exact absurd rfl h
  | resume generation m => exact t.finalized_prefix_finalize none
  | finalize usage => exact t.finalized_prefix_finalize usage
  | hydrate messages =>
    rw [perform, hydrate]
    split
    · next he =>
      rw [(t.isEmpty_iff).1 he]
      exact List.nil_prefix
    · exact List.prefix_refl _

/-- A message that is taken back was the last finalized one, and nothing else changes. -/
theorem perform_takeLastAssistant (t : Transcript) :
    t.finalized = (t.perform .takeLastAssistant).finalized ++
        (t.taken? .takeLastAssistant).toList ∧
      (t.perform .takeLastAssistant).inProgress = t.inProgress := by
  rw [perform, taken?]
  rcases t.takeLastAssistant_cases with ⟨ht, _⟩ | ⟨before, m, hf, _, ht⟩
  · rw [ht]
    exact ⟨(List.append_nil _).symm, rfl⟩
  · rw [ht]
    exact ⟨hf, rfl⟩

/-- The last finalized message is taken back if the assistant wrote it. -/
theorem taken?_takeLastAssistant (t : Transcript) :
    t.taken? .takeLastAssistant = t.finalized.getLast?.filter (·.isAssistant) := by
  rw [taken?, takeLastAssistant]
  cases t.finalized.getLast? with
  | none => rfl
  | some m => exact apply_ite Prod.fst _ _ _

/-! ## What is written -/

/-- The message that is written for a generation is the one in progress. -/
theorem currentOf?_eq_some_iff {generation : Nat} {m : Message} :
    t.currentOf? generation = some m ↔
      ∃ p, t.inProgress = some p ∧ p.generation = generation ∧ p.message = m := by
  rw [currentOf?]
  cases t.inProgress with
  | none => simp
  | some p => simp

theorem lastsFor_of_some {p : InProgress} (h : t.inProgress = some p) :
    t.lastsFor p.generation = InProgress.lasts p := by
  rw [lastsFor, h, Option.any_some, BEq.rfl, Bool.true_and]

theorem lastsFor_of_currentOf?_eq_none {generation : Nat} (h : t.currentOf? generation = none) :
    t.lastsFor generation = false := by
  refine Bool.eq_false_iff.2 fun hl => ?_
  rw [lastsFor, Option.any_eq_true] at hl
  obtain ⟨p, hp, hl⟩ := hl
  have hg : p.generation = generation := beq_iff_eq.1 (Bool.and_eq_true_iff.1 hl).1
  exact Option.some_ne_none _ ((currentOf?_eq_some_iff.2 ⟨p, hp, hg, rfl⟩).symm.trans h)

theorem perform_writeOrBegin_of_some {generation : Nat} {m : Message}
    (h : t.currentOf? generation = some m) (ids : Ids) (now : Int) (w : Writing) :
    t.perform (.writeOrBegin generation ids now w) = t.setCurrent (m.write ids w) := by
  obtain ⟨p, hp, -, rfl⟩ := currentOf?_eq_some_iff.1 h
  rw [perform, ensureCurrent_eq, clearedFor, h, Option.isSome_some, if_pos rfl, hp]

theorem perform_writeOrBegin_of_none {generation : Nat} (h : t.currentOf? generation = none)
    (ids : Ids) (now : Int) (w : Writing) :
    t.perform (.writeOrBegin generation ids now w) =
      { (t.finalize none).2 with inProgress := some ⟨generation,
        (Message.beginAssistant ids.next now).write ids.advance w, false⟩ } := by
  rw [perform, ensureCurrent_eq, clearedFor, h]
  simp only [Option.isSome_none, Bool.false_eq_true, if_false, inProgress_finalize]
  rfl

theorem current?_setCurrent {p : InProgress} (h : t.inProgress = some p) (m : Message) :
    (t.setCurrent m).current? = some m := by
  rw [setCurrent_of_some h]
  rfl

/-- A message that is written to is in progress then. -/
theorem current?_of_written? {o : Operation} {m : Message} (h : t.written? o = some m) :
    (t.perform o).current? = some m := by
  cases o with
  | writeOrBegin generation ids now w =>
    rw [written?] at h
    cases hc : t.currentOf? generation with
    | some m' =>
      obtain ⟨p, hp, -, -⟩ := currentOf?_eq_some_iff.1 hc
      rw [perform_writeOrBegin_of_some hc, current?_setCurrent hp, ← h, hc]
    | none =>
      rw [perform_writeOrBegin_of_none hc, ← h, hc]
      rfl
  | writeIfCurrent generation ids w =>
    obtain ⟨m', hc, rfl⟩ := Option.map_eq_some_iff.1 h
    obtain ⟨p, hp, -, -⟩ := currentOf?_eq_some_iff.1 hc
    rw [perform, hc, current?_setCurrent hp]
  | push | takeLastAssistant | resume | finalize | hydrate => cases h

theorem shows_of_written? {o : Operation} {m : Message} {w : Writing}
    (h : t.written? o = some m) (hw : o.writing? = some w) : m.Shows w := by
  cases o with
  | writeOrBegin generation ids now w =>
    cases hw
    rw [written?] at h
    split at h <;> cases h <;> exact Message.shows_write ..
  | writeIfCurrent generation ids w =>
    cases hw
    obtain ⟨m', -, rfl⟩ := Option.map_eq_some_iff.1 h
    exact m'.shows_write ids w
  | push | takeLastAssistant | resume | finalize | hydrate => cases hw

/-! ## Nothing that lasts is lost -/

theorem retains_finalize (t : Transcript) (usage : Option Usage) :
    Retains t.lastingMessages (t.finalize usage).2.lastingMessages := by
  cases hp : t.inProgress with
  | none =>
    rw [finalize_of_none hp]
    exact .refl _
  | some p =>
    rw [lastingMessages_of_none (inProgress_finalize t usage)]
    cases hl : InProgress.lasts p with
    | false =>
      rw [lastingMessages_of_not_lasts hp hl]
      exact .of_sublist (t.finalized_prefix_finalize usage).sublist
    | true =>
      have hk : ((InProgress.settle p usage).hasContent || p.resumed) = true := hl
      have hf : (t.finalize usage).2.finalized =
          t.finalized ++ [InProgress.settle p usage] := by
        rw [finalize, hp]
        simp only [hk, if_true]
      rw [lastingMessages_of_lasts hp hl, hf]
      exact .last (p.message.extends_marked _ _)

/-- What is written to the message in progress, and lasts only then, comes to what lasted. -/
theorem retains_setCurrent {p : InProgress} (hp : t.inProgress = some p) {m : Message}
    (hm : p.message.Extends m) :
    Retains (t.lastingMessages + (if t.lastsFor p.generation then []
        else ((some m).filter (·.hasContent)).toList : List Message))
      (t.setCurrent m).lastingMessages := by
  rw [setCurrent_of_some hp, lastsFor_of_some hp]
  cases hl : InProgress.lasts p with
  | true =>
    have hl' : InProgress.lasts { p with message := m } = true :=
      Bool.or_eq_true_iff.2 ((Bool.or_eq_true_iff.1 hl).imp_left hm.hasContent)
    rw [lastingMessages_of_lasts hp hl, lastingMessages_of_lasts rfl hl', if_pos rfl,
      Multiset.coe_nil, add_zero]
    exact .last hm
  | false =>
    have hr : p.resumed = false := (Bool.or_eq_false_iff.1 hl).2
    have hset : { t with inProgress := some { p with message := m } }.lastingMessages = _ :=
      lastingMessages_of_not_resumed rfl hr
    rw [lastingMessages_of_not_lasts hp hl, hset, if_neg Bool.false_ne_true, Multiset.coe_add]
    exact .refl _

/-- What comes to be in progress comes to what was finalized before. -/
theorem retains_begin (t : Transcript) {t' : Transcript} {ms rest : List Message}
    (ht : t'.lastingMessages = (t.finalize none).2.finalized ++ rest) (h : Retains ms rest) :
    Retains (t.lastingMessages + ms) t'.lastingMessages := by
  have hf := t.retains_finalize none
  rw [lastingMessages_of_none (inProgress_finalize t none)] at hf
  rw [ht, ← Multiset.coe_add]
  exact hf.add h

theorem retains_writeOrBegin (t : Transcript) (generation : Nat) (ids : Ids) (now : Int)
    (w : Writing) :
    Retains (t.lastingMessages + t.brought (.writeOrBegin generation ids now w))
      (t.perform (.writeOrBegin generation ids now w)).lastingMessages := by
  rw [brought, written?]
  cases hc : t.currentOf? generation with
  | some m =>
    obtain ⟨p, hp, rfl, rfl⟩ := currentOf?_eq_some_iff.1 hc
    rw [perform_writeOrBegin_of_some hc]
    exact retains_setCurrent hp (p.message.extends_write ids w)
  | none =>
    rw [perform_writeOrBegin_of_none hc, lastsFor_of_currentOf?_eq_none hc]
    exact t.retains_begin (lastingMessages_of_not_resumed rfl rfl) (.refl _)

theorem retains_writeIfCurrent (t : Transcript) (generation : Nat) (ids : Ids) (w : Writing) :
    Retains (t.lastingMessages + t.brought (.writeIfCurrent generation ids w))
      (t.perform (.writeIfCurrent generation ids w)).lastingMessages := by
  rw [brought, written?, perform]
  cases hc : t.currentOf? generation with
  | some m =>
    obtain ⟨p, hp, rfl, rfl⟩ := currentOf?_eq_some_iff.1 hc
    exact retains_setCurrent hp (p.message.extends_write ids w)
  | none =>
    rw [lastsFor_of_currentOf?_eq_none hc]
    exact .of_eq (add_zero _)

theorem retains_push (t : Transcript) (m : Message) :
    Retains (t.lastingMessages + [m]) (t.push m).lastingMessages := by
  have hm : Retains [m] [m.settled] := .map (fun m => m.extends_marked false m.usage) [m]
  rw [push, lastingMessages_finalized_append]
  exact (Retains.refl t.lastingMessages).add hm

theorem retains_hydrate (t : Transcript) (messages : List Message) :
    Retains (t.lastingMessages + t.brought (.hydrate messages))
      (t.hydrate messages).2.lastingMessages := by
  rw [brought, hydrate]
  cases he : t.isEmpty with
  | true =>
    rw [(t.isEmpty_iff).1 he, if_pos rfl, if_pos rfl, lastingMessages_of_none rfl,
      lastingMessages_of_none rfl, Multiset.coe_nil, zero_add]
    exact .map (fun m => m.extends_marked false m.usage) messages
  | false => exact .of_eq (add_zero _)

/-- What lasts, or is brought by an operation, is still there, unless the operation takes it
    out. -/
theorem retains_perform (t : Transcript) (o : Operation) :
    Retains (t.lastingMessages + t.brought o)
      ((t.perform o).lastingMessages + (t.taken? o).toList : Multiset Message) := by
  cases o with
  | push m => exact (t.retains_push m).le_add_right _
  | writeOrBegin generation ids now w =>
    exact (t.retains_writeOrBegin generation ids now w).le_add_right _
  | writeIfCurrent generation ids w =>
    exact (t.retains_writeIfCurrent generation ids w).le_add_right _
  | takeLastAssistant =>
    obtain ⟨hf, hp⟩ := t.perform_takeLastAssistant
    have ht := (t.perform .takeLastAssistant).lastingMessages_finalized_append
      (t.taken? .takeLastAssistant).toList
    rw [hp, ← hf] at ht
    exact .of_eq ((add_zero _).trans ht)
  | resume generation m =>
    have hm : Retains [m] [{ m with streaming := true }] :=
      .map (fun m => m.extends_marked true m.usage) [m]
    have ht : (t.resume generation m).lastingMessages = _ :=
      lastingMessages_of_lasts rfl (Bool.or_true _)
    exact (t.retains_begin ht hm).le_add_right _
  | finalize usage => exact (t.retains_finalize usage).add_right _
  | hydrate messages => exact (t.retains_hydrate messages).le_add_right _

/-- However much is done, what lasts or is brought is still there, or was taken out since. -/
theorem retains_after (t : Transcript) (operations : List Operation) :
    Retains (t.lastingMessages + t.broughtBy operations)
      ((t.after operations).lastingMessages + t.takenBy operations : Multiset Message) := by
  induction operations generalizing t with
  | nil => exact .refl _
  | cons o operations ih =>
    have ho := (t.retains_perform o).add_right ((t.perform o).broughtBy operations)
    have hs := (ih (t.perform o)).add_right (t.taken? o).toList
    rw [broughtBy, takenBy, ← Multiset.coe_add, ← Multiset.coe_add, ← add_assoc]
    -- What was taken out now stands aside while the rest is done.
    refine ho.trans ((Retains.of_eq (add_right_comm ..)).trans (hs.trans (.of_eq ?_)))
    exact (add_assoc ..).trans (congrArg _ (add_comm ..))

theorem isEmpty_eq_false_iff (t : Transcript) : t.isEmpty = false ↔ t.messages ≠ [] := by
  obtain ⟨finalized, inProgress⟩ := t
  cases finalized <;> cases inProgress <;> simp [isEmpty, messages, current?]

/-- What is known of a transcript after any use, with any generations in any order.

Exactly the message in progress is streaming. The finalized messages only get more, until the
last one, if the assistant wrote it, is taken back. A message that is written to is in progress
then, shows what was written, and lasts if it has something to show. Every message that is
finalized, has something to show or was taken back to be continued has one of its own, which goes
on from it, at any later time, and so has every message that is brought into the transcript
meanwhile: among the messages of the transcript then, or those that were taken out since. And
stored messages only come into a transcript without any. -/
theorem any_use_retains (past more : List Operation) :
    let t := after {} past
    (∀ m ∈ t.finalized, m.streaming = false) ∧
      (∀ p ∈ t.inProgress, p.message.streaming = true) ∧
      t.streamingCount = (if t.inProgress.isSome then 1 else 0) ∧
      (∀ o, o ≠ .takeLastAssistant → t.finalized <+: (t.perform o).finalized) ∧
      (t.finalized = (t.perform .takeLastAssistant).finalized ++
          (t.taken? .takeLastAssistant).toList ∧
        (t.perform .takeLastAssistant).inProgress = t.inProgress ∧
        t.taken? .takeLastAssistant = t.finalized.getLast?.filter (·.isAssistant)) ∧
      (∀ o m, t.written? o = some m → (t.perform o).current? = some m ∧
        (∀ w, o.writing? = some w → m.Shows w) ∧
        (m.hasContent = true → m ∈ (t.perform o).lastingMessages)) ∧
      (∀ o, Retains (t.lastingMessages + t.brought o)
        ((t.perform o).lastingMessages + (t.taken? o).toList : Multiset Message)) ∧
      Retains (t.lastingMessages + t.broughtBy more)
        ((t.after more).messages + t.takenBy more : Multiset Message) ∧
      (t.messages ≠ [] → ∀ messages, t.hydrate messages = (false, t)) := by
  intro t
  have hm : t.Marked := marked_empty.after past
  refine ⟨hm.finalized, hm.inProgress, hm.streamingCount, fun o ho => finalized_perform ho,
    ⟨t.perform_takeLastAssistant.1, t.perform_takeLastAssistant.2, t.taken?_takeLastAssistant⟩,
    fun o m h => ⟨current?_of_written? h, fun w => shows_of_written? h,
      mem_lastingMessages (current?_of_written? h)⟩,
    t.retains_perform, ?_, fun he messages => ?_⟩
  · have hs : Retains (t.after more).lastingMessages (t.after more).messages :=
      .of_sublist (t.after more).lastingMessages_sublist
    exact (t.retains_after more).trans (hs.add_right _)
  · rw [hydrate, if_neg]
    rw [(t.isEmpty_eq_false_iff).2 he]
    exact Bool.noConfusion

/-- Nothing was written to a message that was taken back, and it is finalized all the same when
    another generation begins one. -/
theorem any_use_retains_resumed :
    let ids : Ids := { name := fun _ => "b" }
    let a := Message.beginAssistant "a" 1
    let b := (Message.beginAssistant "b" 2).write ids.advance (.text "x")
    let t := after {} [.resume 1 a]
    let more : List Operation := [.writeOrBegin 2 ids 2 (.text "x")]
    a.hasContent = false ∧ (t.after more).finalized = [a.settled] ∧
      Retains ([a, b] : List Message) (t.after more).messages := by
  intro ids a b t more
  obtain ⟨-, -, -, -, -, -, -, hretains, -⟩ := any_use_retains [.resume 1 a] more
  have hbrought : t.lastingMessages ++ t.broughtBy more = [a, b] := by decide
  have htaken : (t.after more).messages ++ t.takenBy more = (t.after more).messages := by decide
  refine ⟨by decide, by decide, ?_⟩
  rwa [Multiset.coe_add, Multiset.coe_add, hbrought, htaken] at hretains

end Transcript

end Dialogue
