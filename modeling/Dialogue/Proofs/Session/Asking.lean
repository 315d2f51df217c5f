import Dialogue.Http.Request
import Dialogue.Proofs.Json.Ordered
import Dialogue.Proofs.Session.Course

/-!
# What a turn asks about

A turn asks for an answer to all messages so far. Wherever it is begun, whatever was in progress
has been finalized before, so the request has every message that was shown, and after them the
input that the turn is about (`Session.CarriesHistory`). What is asked about later goes on from
there (`Session.Remembers`).

* `Coherent.carriesHistory`: a request has all messages there are once its turn has begun;
* `Remembers.react`: the messages of an earlier request are still the first ones;
* `HttpRequest.body_newTurn`: the server gets who wrote these messages and what they say;
* `turn_requests_carry_history`: so it is after any inputs.
-/

namespace Dialogue

open Json

/-- Of the messages of a turn, the server gets who wrote them and what they say. -/
theorem HttpRequest.body_newTurn (c : Config) (conversationId : String) (ms : List Message) :
    (ofTurn c (.newTurn conversationId ms)).body = some (.object
      [("conversation_id", .string conversationId),
        ("messages", .array (ms.map fun m =>
          .object [("content", .string m.content), ("role", m.role.toJson)]))]) := by
  have hm (m : Message) :
      messageBody m = .object [("content", .string m.content), ("role", m.role.toJson)] := by
    rw [messageBody, Value.ofMembers_pair_swapped (by decide)]
  rw [ofTurn, turnBody, Value.ofMembers_pair_swapped (by decide),
    List.map_congr_left fun m _ => hm m]

namespace Effect

theorem mem_turnRequests_iff {es : List Effect} {ms : List Message} :
    ms ∈ turnRequests es ↔ ∃ g conversationId, (g, .newTurn conversationId ms) ∈ openings es := by
  simp only [turnRequests, openings, List.mem_filterMap]
  constructor
  · rintro ⟨e, he, h⟩
    split at h
    · next g conversationId ms =>
      obtain rfl := Option.some.inj h
      exact ⟨g, conversationId, _, he, rfl⟩
    · exact absurd h (Option.some_ne_none _).symm
  · rintro ⟨g, conversationId, e, he, h⟩
    split at h
    · next g request =>
      obtain ⟨rfl, rfl⟩ := Prod.mk.inj (Option.some.inj h)
      exact ⟨_, he, rfl⟩
    · exact absurd h (Option.some_ne_none _).symm

end Effect

namespace Session

open Effect Transcript

variable {s s' : Session} {origin : Option Origin} {i : Input}

/-! ## What is asked -/

theorem Course.conversationId (h : s.Course origin i s') :
    s'.conversationId = s.conversationId := by
  cases h with
  | rests _ hc _ _ => exact hc
  | turns _ hc =>
    rw [beginTurn_eq, openStream_eq]
    exact hc.conversationId
  | continues hc => exact (conversationId_beginContinuation _ _ _ _).trans hc.conversationId
  | writes _ he => exact (continues_apply s he).conversationId
  | hydrates _ => rfl

/-- Unless it begins a turn, an input asks for no answer to new input. -/
theorem Course.silent_or_turns (h : s.Course origin i s') :
    s.Silent s' ∨ ∃ e o, origin = some o ∧ s.Clears e ∧ s' = e.beginTurn o.content := by
  cases h with
  | rests hs _ _ _ => exact .inl hs
  | turns ho hc => exact .inr ⟨_, _, ho, hc, rfl⟩
  | continues hc => exact .inl (hc.silent.trans (silent_beginContinuation _ _ _ _))
  | writes _ he => exact .inl (continues_apply s he).silent
  | hydrates _ => exact .inl (silent_of_acts (acts_of_tellings rfl) rfl)

/-- A request of a step for an answer to new input, and the session after that step. -/
structure CarriesHistory (t : Transition) (conversationId : String) (ms : List Message)
    (s' : Session) : Prop where
  conversationId : conversationId = t.before.conversationId
  /-- It has what can be seen, and nothing of that is still being written. -/
  shown : ms = s'.snapshot.messages
  resting : s'.transcript.inProgress = none
  streaming : ∀ m ∈ ms, m.streaming = false
  /-- It has what could be seen before, and after that the input, under an identifier that is
      handed out in this step. -/
  input : ∃ kept origin k,
    ms = kept ++ [.ofUser (t.before.ids.name k) origin.content t.before.now] ∧
    kept.map Message.unmarked = t.before.snapshot.messages.map Message.unmarked ∧
    t.before.origin? t.input t.reply = some origin ∧
    t.before.ids.used ≤ k ∧ k < s'.ids.used

/-- What asks nothing opens no stream for new input. -/
theorem Silent.not_mem_openings (h : s.Silent s') : ∃ as, s.Acts s' as ∧
    ∀ g conversationId ms, (g, .newTurn conversationId ms) ∉ openings as := by
  obtain ⟨as, ha, hn⟩ := h.asks
  refine ⟨as, ha, fun g conversationId ms hm => ?_⟩
  have hm := mem_turnRequests_iff.2 ⟨g, conversationId, hm⟩
  rw [hn] at hm
  exact List.not_mem_nil hm

/-- A request for an answer to new input is that of the turn that begins. -/
theorem Course.of_opening (h : s.Course origin i (s.react i).2) {g : Nat}
    {conversationId : String} {ms : List Message}
    (hm : (g, .newTurn conversationId ms) ∈ openings (s.transition i).effects) :
    ∃ e o, origin = some o ∧ s.Clears e ∧ (s.react i).2 = e.beginTurn o.content ∧
      .newTurn conversationId ms = e.turnRequest o.content := by
  rcases h.silent_or_turns with hs | ⟨e, o, ho, hc, hs⟩
  · obtain ⟨as, ha, hno⟩ := hs.not_mem_openings
    rw [ha.openings] at hm
    exact absurd hm (hno g conversationId ms)
  · obtain ⟨as, ha, hno⟩ := hc.silent.not_mem_openings
    have hb := ha.trans (acts_beginTurn e o.content)
    rw [← hs] at hb
    rw [hb.openings, openings_append] at hm
    have hr := (List.mem_append.1 hm).resolve_left (hno g conversationId ms)
    exact ⟨e, o, ho, hc, hs, (Prod.mk.inj (List.mem_singleton.1 hr)).2⟩

theorem turnRequest_eq (hp : s.transcript.inProgress = none) (content : String) :
    s.turnRequest content =
      .newTurn s.conversationId (s.beginTurn content).transcript.messages := by
  rw [messages_beginTurn hp, messages_of_none hp, turnRequest]

/-- A request has all messages there are once its turn has begun. -/
theorem Coherent.carriesHistory (h : s.Coherent) (hl : s.transcript.Lasting) {g : Nat}
    {conversationId : String} {ms : List Message}
    (hm : (g, .newTurn conversationId ms) ∈ openings (s.transition i).effects) :
    CarriesHistory (s.transition i) conversationId ms (s.react i).2 := by
  obtain ⟨e, o, ho, hc, hs, hr⟩ := (h.course (s.reaction i)).of_opening hm
  rw [turnRequest_eq hc.inProgress] at hr
  obtain ⟨rfl, rfl⟩ := Request.newTurn.inj hr
  have hp : (e.beginTurn o.content).transcript.inProgress = none := by
    rw [transcript_beginTurn]
    exact hc.inProgress
  have hmarked : (e.beginTurn o.content).transcript.Marked := hs ▸ (h.react i).marked
  rw [hs]
  refine ⟨hc.conversationId, rfl, hp, fun m hm => ?_,
    e.transcript.messages, o, e.ids.used, ?_, ?_, ho, hc.silent.ids.used, ?_⟩
  · rw [messages_of_none hp] at hm
    exact hmarked.finalized m hm
  · rw [messages_beginTurn hc.inProgress, inputMessage, hc.now, Ids.next, hc.silent.ids.name]
    rfl
  · obtain ⟨usage, ht⟩ := hc.transcript
    rw [ht]
    exact hl.unmarked_finalize usage
  · rw [beginTurn_eq, openStream_eq]
    exact Nat.lt_succ_self _

/-! ## Earlier requests -/

/-- The messages of every request so far are the first ones of any later request, and of those
    that there are now. -/
structure Remembers (s : Session) : Prop where
  ordered : (turnRequests s.outbox).Pairwise fun earlier later =>
    earlier.map (·.id) <+: later.map (·.id)
  now : ∀ ms ∈ turnRequests s.outbox, ms.map (·.id) <+: s.transcript.messages.map (·.id)

theorem Remembers.of_silent (h : s.Remembers) (hs : s.Silent s')
    (hc : s.transcript.Carries s'.transcript) : s'.Remembers := by
  obtain ⟨as, ha, hn⟩ := hs.asks
  have ho : turnRequests s'.outbox = turnRequests s.outbox := by
    rw [ha.turnRequests, hn, List.append_nil]
  constructor
  · rw [ho]
    exact h.ordered
  · rw [ho]
    exact fun ms hm => (h.now ms hm).trans hc.grows.map_id_prefix

theorem Clears.carries {e : Session} (h : s.Clears e) (hl : s.transcript.Lasting) :
    s.transcript.Carries e.transcript := by
  obtain ⟨usage, ht⟩ := h.transcript
  rw [ht]
  exact hl.carries_finalize usage

/-- The request of a turn has all messages that there are then. -/
theorem Remembers.beginTurn (h : s.Remembers) (hp : s.transcript.inProgress = none)
    (content : String) : (s.beginTurn content).Remembers := by
  have ho : turnRequests (s.beginTurn content).outbox =
      turnRequests s.outbox ++ [(s.beginTurn content).transcript.messages] := by
    rw [(acts_beginTurn s content).turnRequests, turnRequest_eq hp]
    rfl
  -- What was asked before stays within the messages that there were before.
  have hb : ∀ ms ∈ turnRequests s.outbox,
      ms.map (·.id) <+: (s.beginTurn content).transcript.messages.map (·.id) := by
    intro ms hm
    rw [messages_beginTurn hp, List.map_append]
    exact (h.now ms hm).trans (List.prefix_append _ _)
  constructor
  · rw [ho]
    refine List.pairwise_append.2 ⟨h.ordered, List.pairwise_singleton _ _, fun ms hm ms' hm' => ?_⟩
    rw [List.mem_singleton.1 hm']
    exact hb ms hm
  · rw [ho]
    exact List.forall_mem_append.2 ⟨hb, List.forall_mem_singleton.2 (List.prefix_refl _)⟩

theorem Remembers.react (h : s.Remembers) (hc : s.Coherent) (hl : s.transcript.Lasting)
    (i : Input) : (s.react i).2.Remembers := by
  have hcarries := hc.carries hl (s.reaction i)
  rcases (hc.course (s.reaction i)).silent_or_turns with hs | ⟨e, o, _, hcl, hs⟩
  · exact h.of_silent hs hcarries
  · rw [hs]
    exact (h.of_silent hcl.silent (hcl.carries hl)).beginTurn hcl.inProgress _

/-- What every request for an answer to new input carries, whatever the inputs were and whatever
    the next one is.

    A request that this one leads to belongs to the conversation of the session, and has exactly
    the messages that can be seen right after it, none of which is still being written: those
    that could be seen before, what an interrupted turn wrote included, and after them the input
    as it was submitted or queued. Of any two requests so far, the messages of the earlier one
    come first in the later one. And what the server gets lists who wrote these messages and
    what they say, in order, and nothing else about them. -/
theorem turn_requests_carry_history (conversationId : String) (interval now : Nat) (ids : Ids)
    (inputs : List Input) (i : Input) :
    let s := (start conversationId interval now ids).run inputs
    let s' := (s.react i).2
    (∀ g id ms, (g, .newTurn id ms) ∈ openings (s.transition i).effects →
      id = conversationId ∧ CarriesHistory (s.transition i) id ms s') ∧
    (turnRequests s'.outbox).Pairwise (fun earlier later =>
      earlier.map (·.id) <+: later.map (·.id)) ∧
    ∀ (c : Config) (id : String) (ms : List Message),
      (HttpRequest.ofTurn c (.newTurn id ms)).body = some (.object
        [("conversation_id", .string id),
          ("messages", .array (ms.map fun m =>
            .object [("content", .string m.content), ("role", m.role.toJson)]))]) := by
  intro s s'
  have hs : s.conversationId = conversationId ∧ s.Coherent ∧ s.transcript.Lasting ∧
      s.Remembers := by
    refine run_induction
      (P := fun s => s.conversationId = conversationId ∧ s.Coherent ∧ s.transcript.Lasting ∧
        s.Remembers)
      ⟨rfl, coherent_start conversationId interval now ids, lasting_of_none rfl, ?_⟩
      fun s i _ ⟨hi, hc, hl, hr⟩ => ⟨(hc.course (s.reaction i)).conversationId.trans hi, hc.react i,
        (hc.carries hl (s.reaction i)).lasting, hr.react hc hl i⟩
    exact ⟨.nil, fun _ hm => absurd hm List.not_mem_nil⟩
  obtain ⟨hi, hc, hl, hr⟩ := hs
  refine ⟨fun g id ms hm => ?_, (hr.react hc hl i).ordered, HttpRequest.body_newTurn⟩
  have hh := hc.carriesHistory hl hm
  exact ⟨hh.conversationId.trans hi, hh⟩

end Session

end Dialogue
