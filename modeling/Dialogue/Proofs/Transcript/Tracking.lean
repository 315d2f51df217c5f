import Dialogue.Proofs.Transcript.Growth

/-!
# Messages known by their identifiers

Whoever is told of messages one at a time knows them by their identifiers: a message takes
the place of the one with its identifier, or comes last (`putMessage`). That gives the
messages of a transcript (`Tracked`), except that the usage of the one in progress may
be older, as long as identifiers tell messages apart. So it is part of what is known
that no identifier is used twice, nor ever will be (`Ids.Spent`).

* `Tracked.put_last`, `Tracked.put_next`: another last message, or one more;
* `Tracked.push`, `Tracked.setCurrent`, `Tracked.finalize`, `Tracked.resume`: so what is
  known is what is there, if what is done to a transcript is told.
-/

namespace Dialogue

/-! ## Putting messages -/

/-- Put a message in the place of the one with its identifier, or at the end. -/
def putMessage (m : Message) : List Message → List Message
  | [] => [m]
  | k :: rest => if k.id = m.id then m :: rest else k :: putMessage m rest

/-- Put messages one after the other. -/
def putMessages (ms known : List Message) : List Message :=
  ms.foldl (fun known m => putMessage m known) known

theorem putMessage_of_ne {m : Message} {ms : List Message} (h : ∀ k ∈ ms, k.id ≠ m.id) :
    putMessage m ms = ms ++ [m] := by
  induction ms with
  | nil => rfl
  | cons k ms ih =>
    rw [putMessage, if_neg (h k List.mem_cons_self),
      ih fun k hk => h k (List.mem_cons_of_mem _ hk)]
    rfl

theorem putMessage_last {m k : Message} {before : List Message}
    (h : ∀ k ∈ before, k.id ≠ m.id) (hk : k.id = m.id) :
    putMessage m (before ++ [k]) = before ++ [m] := by
  induction before with
  | nil => exact if_pos hk
  | cons k before ih =>
    rw [List.cons_append, putMessage, if_neg (h k List.mem_cons_self),
      ih fun k hk => h k (List.mem_cons_of_mem _ hk)]
    rfl

/-- Messages with different identifiers are put one after the other. -/
theorem putMessages_of_nodup {ms known : List Message}
    (h : ((known ++ ms).map (·.id)).Nodup) : putMessages ms known = known ++ ms := by
  induction ms generalizing known with
  | nil => exact (List.append_nil known).symm
  | cons m ms ih =>
    have hne : ∀ k ∈ known, k.id ≠ m.id := by
      rw [List.map_append, List.nodup_append] at h
      exact fun k hk => h.2.2 _ (List.mem_map_of_mem hk) _ (List.mem_map_of_mem List.mem_cons_self)
    have hs : putMessages (m :: ms) known = putMessages ms (known ++ [m]) := by
      rw [putMessages, List.foldl_cons, putMessage_of_ne hne]
      rfl
    rw [List.append_cons] at h ⊢
    exact hs.trans (ih h)

/-! ## Identifiers that tell messages apart -/

/-- An identifier that the supply is not going to hand out. -/
def Ids.Spent (ids : Ids) (id : String) : Prop :=
  ∀ k, ids.used ≤ k → ids.name k ≠ id

theorem Ids.Spent.of_isPrefixOf {ids ids' : Ids} {id : String} (h : ids.Spent id)
    (hi : ids.IsPrefixOf ids') : ids'.Spent id := by
  intro k hk
  rw [hi.name]
  exact h k (Nat.le_trans hi.used hk)

theorem Ids.IsFresh.of_isPrefixOf {ids ids' : Ids} (h : ids.IsFresh) (hi : ids.IsPrefixOf ids') :
    ids'.IsFresh := by
  rw [Ids.IsFresh, hi.name]
  exact h

/-- An identifier is handed out once. -/
theorem Ids.IsFresh.spent_next {ids : Ids} (h : ids.IsFresh) : ids.advance.Spent ids.next :=
  fun k hk he => Nat.ne_of_gt hk (h k ids.used he)

/-- Messages whose identifiers tell them apart, and from all that a supply hands out. -/
structure Ids.Distinguishes (ids : Ids) (messages : List Message) : Prop where
  nodup : (messages.map (·.id)).Nodup
  ne : ∀ m ∈ messages, ∀ k, ids.name k ≠ m.id

theorem Ids.Distinguishes.of_append {ids : Ids} {ms ms' : List Message}
    (h : ids.Distinguishes (ms ++ ms')) : ids.Distinguishes ms ∧ ids.Distinguishes ms' := by
  have hn := h.nodup
  rw [List.map_append, List.nodup_append] at hn
  exact ⟨⟨hn.1, fun m hm => h.ne m (List.mem_append_left _ hm)⟩,
    hn.2.1, fun m hm => h.ne m (List.mem_append_right _ hm)⟩

/-- What is known of the messages of a transcript: all of them, except that the usage of
    the one in progress may be older. Their identifiers tell them apart, from each other
    and from any message to come. -/
structure Tracked (known : List Message) (ids : Ids) (t : Transcript) : Prop where
  shown : ∃ usage, known = (t.noted usage).messages
  nodup : (t.messages.map (·.id)).Nodup
  spent : ∀ m ∈ t.messages, ids.Spent m.id
  fresh : ids.IsFresh

namespace Tracked

open Transcript

variable {known : List Message} {ids ids' : Ids} {t : Transcript}

/-- Some account is the one that a transcript has. -/
theorem exists_noted (t : Transcript) : ∃ usage, t.noted usage = t := by
  cases hp : t.inProgress with
  | none => exact ⟨none, noted_of_none hp none⟩
  | some p =>
    refine ⟨p.message.usage, ?_⟩
    rw [noted_of_some hp, setCurrent_of_some hp, ← hp]

theorem of_isPrefixOf (h : Tracked known ids t) (hi : ids.IsPrefixOf ids') :
    Tracked known ids' t :=
  { h with
    spent := fun m hm => (h.spent m hm).of_isPrefixOf hi
    fresh := h.fresh.of_isPrefixOf hi }

theorem known_of_none (h : Tracked known ids t) (hp : t.inProgress = none) :
    known = t.finalized := by
  obtain ⟨usage, hk⟩ := h.shown
  rw [hk, noted_of_none hp, messages_of_none hp]

theorem known_of_some (h : Tracked known ids t) {p : InProgress} (hp : t.inProgress = some p) :
    ∃ usage, known = t.finalized ++ [{ p.message with usage }] := by
  obtain ⟨usage, hk⟩ := h.shown
  refine ⟨usage, ?_⟩
  rw [hk, noted_of_some hp, setCurrent_of_some hp, messages_of_some rfl]

/-- The last message has another identifier than those before it. -/
theorem ne_last (h : Tracked known ids t) {before : List Message} {m : Message}
    (hm : t.messages = before ++ [m]) : ∀ k ∈ before, k.id ≠ m.id := by
  have hn := h.nodup
  rw [hm, List.map_append, List.nodup_append] at hn
  exact fun k hk => hn.2.2 _ (List.mem_map_of_mem hk) _ (List.mem_singleton.2 rfl)

/-- What is known is known exactly when no message is in progress. -/
theorem of_finalized {finalized : List Message} {ids : Ids}
    (hn : (finalized.map (·.id)).Nodup) (hs : ∀ m ∈ finalized, ids.Spent m.id)
    (hf : ids.IsFresh) : Tracked finalized ids { finalized } where
  shown := ⟨none, (List.append_nil finalized).symm⟩
  nodup := by rwa [messages_of_none rfl]
  spent := by rwa [messages_of_none rfl]
  fresh := hf

/-- The last message is another one with the same identifier, and that is told. -/
theorem put_last (h : Tracked known ids t) {before : List Message} {old m : Message}
    (hk : ∃ usage, known = before ++ [{ old with usage }]) (hm : t.messages = before ++ [old])
    (hid : m.id = old.id) {t' : Transcript} (hm' : t'.messages = before ++ [m]) :
    Tracked (putMessage m known) ids t' := by
  obtain ⟨usage, rfl⟩ := hk
  have hne : ∀ k ∈ before, k.id ≠ m.id := fun k hk => hid ▸ h.ne_last hm k hk
  -- The identifiers are those from before.
  have hids : t'.messages.map (·.id) = t.messages.map (·.id) := by
    rw [hm, hm', List.map_append, List.map_append, List.map_singleton, List.map_singleton, hid]
  refine ⟨?_, hids ▸ h.nodup, fun k hk => ?_, h.fresh⟩
  · obtain ⟨usage', hs⟩ := exists_noted t'
    refine ⟨usage', ?_⟩
    rw [putMessage_last (k := { old with usage }) hne hid.symm, hs, hm']
  · have hk : k.id ∈ t.messages.map (·.id) := hids ▸ List.mem_map_of_mem hk
    obtain ⟨k', hk', he⟩ := List.mem_map.1 hk
    exact he ▸ h.spent k' hk'

/-- A message with the next identifier comes last, and is told. -/
theorem put_next (h : Tracked known ids t) (hp : t.inProgress = none) {m : Message}
    (hid : m.id = ids.next) (hi : ids.advance.IsPrefixOf ids') {t' : Transcript}
    (hm : t'.messages = t.finalized ++ [m]) : Tracked (putMessage m known) ids' t' := by
  have hsp := h.spent
  have hnd := h.nodup
  rw [messages_of_none hp] at hsp hnd
  have hne : ∀ k ∈ t.finalized, k.id ≠ m.id := fun k hk he =>
    hsp k hk ids.used (Nat.le_refl _) (he.trans hid).symm
  refine ⟨?_, ?_, fun k hk => ?_, (h.fresh.of_isPrefixOf ids.isPrefixOf_advance).of_isPrefixOf hi⟩
  · obtain ⟨usage, hs⟩ := exists_noted t'
    exact ⟨usage, by rw [h.known_of_none hp, putMessage_of_ne hne, hs, hm]⟩
  · rw [hm, List.map_append, List.nodup_append]
    refine ⟨hnd, List.pairwise_singleton _ _, fun a ha b hb hab => ?_⟩
    obtain ⟨k, hk, rfl⟩ := List.mem_map.1 ha
    exact hne k hk (hab.trans (List.mem_singleton.1 hb))
  · rw [hm] at hk
    rcases List.mem_append.1 hk with hk | hk
    · exact ((hsp k hk).of_isPrefixOf ids.isPrefixOf_advance).of_isPrefixOf hi
    · rw [List.mem_singleton.1 hk, hid]
      exact h.fresh.spent_next.of_isPrefixOf hi

/-! ### What is done to a transcript -/

theorem push (h : Tracked known ids t) (hp : t.inProgress = none) {m : Message}
    (hid : m.id = ids.next) (hm : m.streaming = false) :
    Tracked (putMessage m known) ids.advance (t.push m) := by
  have hs : m.settled = m := by rw [Message.settled, ← hm]
  refine h.put_next hp hid (.refl _) ?_
  rw [messages_of_none (t := t.push m) hp, Transcript.push, hs]

theorem begins (h : Tracked known ids t) (hp : t.inProgress = none) {p : InProgress}
    (hid : p.message.id = ids.next) (hi : ids.advance.IsPrefixOf ids') :
    Tracked (putMessage p.message known) ids' { t with inProgress := some p } :=
  h.put_next hp hid hi (messages_of_some rfl)

theorem setCurrent (h : Tracked known ids t) {p : InProgress} (hp : t.inProgress = some p)
    {m : Message} (hid : m.id = p.message.id) :
    Tracked (putMessage m known) ids (t.setCurrent m) := by
  rw [setCurrent_of_some hp]
  exact h.put_last (h.known_of_some hp) (messages_of_some hp) hid
    (messages_of_some (p := { p with message := m }) rfl)

/-- The usage of the message in progress is not told. -/
theorem noted (h : Tracked known ids t) (usage : Option Usage) :
    Tracked known ids (t.noted usage) := by
  obtain ⟨usage', hk⟩ := h.shown
  have hids : (t.noted usage).messages.map (·.id) = t.messages.map (·.id) := by
    cases hp : t.inProgress with
    | none => rw [noted_of_none hp]
    | some p =>
      rw [messages_of_some hp, noted_of_some hp, setCurrent_of_some hp, messages_of_some rfl,
        List.map_append, List.map_append]
      rfl
  refine ⟨⟨usage', ?_⟩, hids ▸ h.nodup, fun m hm => ?_, h.fresh⟩
  · rw [hk, Transcript.noted, Transcript.noted, Transcript.noted, Option.map_map]
    rfl
  · have hm : m.id ∈ t.messages.map (·.id) := hids ▸ List.mem_map_of_mem hm
    obtain ⟨m', hm', he⟩ := List.mem_map.1 hm
    exact he ▸ h.spent m' hm'

theorem finalize (h : Tracked known ids t) (hl : t.Lasting) (usage : Option Usage) :
    Tracked (putMessages (t.finalize usage).1.toList known) ids (t.finalize usage).2 := by
  cases hp : t.inProgress with
  | none =>
    rw [finalize_of_none hp]
    exact h
  | some p =>
    rw [hl.finalize_of_some hp]
    exact h.put_last (m := InProgress.settle p usage) (h.known_of_some hp) (messages_of_some hp) rfl
      (messages_of_none rfl)

theorem resume (h : Tracked known ids t) (hp : t.inProgress = none) {before : List Message}
    {m : Message} (hf : t.finalized = before ++ [m]) (generation : Nat) :
    Tracked (putMessage { m with streaming := true } known) ids
      (resume { t with finalized := before } generation m) := by
  have hm : t.messages = before ++ [m] := (messages_of_none hp).trans hf
  rw [resume_of_none (t := { t with finalized := before }) hp]
  exact h.put_last (m := { m with streaming := true }) ⟨m.usage, (h.known_of_none hp).trans hf⟩ hm
    rfl (messages_of_some (p := ⟨generation, { m with streaming := true }, true⟩) rfl)

end Tracked

end Dialogue
