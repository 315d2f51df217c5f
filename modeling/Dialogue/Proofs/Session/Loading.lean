import Dialogue.Proofs.Conversation
import Dialogue.Proofs.Session.Growth

/-!
# Loading stored messages

Stored messages come into a session that has none yet and waits for nothing. A service fetches
them before it offers them to its session (`Service.Input`); what it fetched may be an error.

A session keeps the messages it has (`Inhabited.react`), so after it took some it does not take
any others, no matter what happens in between. An empty list is said to be taken as well. It
leaves the session as it is, and the next list is taken again.

* `hydrate_of_canHydrate`, `hydrate_of_not_canHydrate`: what a session does with stored messages;
* `Service.hydrate_cases`: and a service;
* `Inhabited.run`, `Service.session_induction`: no run of inputs, to a session or to a service,
  leaves a session without the messages it had;
* `loads_messages_once`: stored messages are taken at most once, unless the list is empty.
-/

namespace Dialogue

/-- The messages are those that were stored, in their order, and none is streaming. -/
structure Transcript.Restores (t : Transcript) (messages : List Message) : Prop where
  messages_eq : t.messages = messages.map fun m => { m with streaming := false }
  inProgress : t.inProgress = none
  isEmpty_eq : t.isEmpty = messages.isEmpty

namespace Session

variable {s : Session} {messages : List Message}

/-! ## Sessions with messages -/

theorem Coherent.withIds (h : s.Coherent) (ids : Ids) : Coherent { s with ids } :=
  h.congr _ rfl rfl rfl rfl rfl

/-- A session with messages, none of which it is about to drop. -/
structure Inhabited (s : Session) : Prop where
  coherent : s.Coherent
  lasting : s.transcript.Lasting
  messages_ne : s.transcript.messages ≠ []

theorem Inhabited.react (h : s.Inhabited) (i : Input) : (s.react i).2.Inhabited where
  coherent := h.coherent.react i
  lasting := (h.coherent.carries h.lasting (s.reaction i)).lasting
  messages_ne := by
    have hg := (h.coherent.carries h.lasting (s.reaction i)).grows.length_le
    have hpos := List.length_pos_iff.2 h.messages_ne
    exact List.length_pos_iff.1 (Nat.lt_of_lt_of_le hpos hg)

theorem Inhabited.withIds (h : s.Inhabited) (ids : Ids) : Inhabited { s with ids } :=
  ⟨h.coherent.withIds ids, h.lasting, h.messages_ne⟩

theorem Inhabited.run (h : s.Inhabited) (inputs : List Input) : (s.run inputs).Inhabited :=
  run_induction h fun _ i _ h => h.react i

theorem Inhabited.canHydrate (h : s.Inhabited) : s.canHydrate = false := by
  rw [← Bool.not_eq_true, canHydrate_iff]
  rintro ⟨-, -, hx⟩
  exact h.messages_ne (congrArg Transcript.messages hx)

/-! ## Taking stored messages -/

theorem hydrate_of_not_canHydrate (hc : s.canHydrate = false) (messages : List Message) :
    s.hydrate messages = (false, s) := by
  rw [hydrate, if_neg (Bool.eq_false_iff.1 hc)]

theorem hydrate_of_canHydrate (hc : s.canHydrate = true) (messages : List Message) :
    s.hydrate messages = (true, s.hydrated messages) := by
  obtain ⟨hr, hs⟩ := (s.reaction_hydrate messages).eq_hydrated hc
  injection hr with hr
  injection hr with hr
  injection hr with hr
  exact Prod.ext hr hs

theorem react_hydrate (hc : s.canHydrate = true) (messages : List Message) :
    (s.react (.command (.hydrate messages))).2 = s.hydrated messages :=
  congrArg Prod.snd (hydrate_of_canHydrate hc messages)

theorem restores_hydrated (s : Session) (messages : List Message) :
    (s.hydrated messages).transcript.Restores messages where
  messages_eq := List.append_nil _
  inProgress := rfl
  isEmpty_eq := by cases messages <;> rfl

/-- Nothing changes if there is nothing to take. -/
theorem hydrated_nil (hc : s.canHydrate = true) : s.hydrated [] = s := by
  have hx : s.transcript = {} := (s.canHydrate_iff.1 hc).2.2
  rw [hydrated, List.map_nil, List.map_nil, ← hx]
  simp [Effect.tellings]

theorem Coherent.inhabited_hydrated (h : s.Coherent) (hc : s.canHydrate = true)
    (hm : messages ≠ []) : (s.hydrated messages).Inhabited where
  coherent := react_hydrate hc messages ▸ h.react (.command (.hydrate messages))
  lasting := Transcript.lasting_of_none rfl
  messages_ne := by
    rw [(s.restores_hydrated messages).messages_eq]
    exact mt List.map_eq_nil_iff.1 hm

/-- Whatever happens to a session, it takes stored messages once, if there are any. -/
theorem Coherent.hydrates_once (h : s.Coherent) (messages : List Message) :
    ((s.hydrate messages).1 = false → (s.hydrate messages).2 = s) ∧
    ((s.hydrate messages).1 = true →
      (s.hydrate messages).2.transcript.Restores messages ∧
      (messages = [] → (s.hydrate messages).2 = s) ∧
      (messages ≠ [] → ∀ later messages',
        (((s.hydrate messages).2.run later).hydrate messages').1 = false)) := by
  cases hc : s.canHydrate with
  | false =>
    rw [hydrate_of_not_canHydrate hc]
    exact ⟨fun _ => rfl, nofun⟩
  | true =>
    rw [hydrate_of_canHydrate hc]
    refine ⟨nofun, fun _ => ⟨s.restores_hydrated messages, ?_, fun hm later messages' => ?_⟩⟩
    · rintro rfl
      exact hydrated_nil hc
    · -- There is a message now, and there is one after any inputs.
      have hn := ((h.inhabited_hydrated hc hm).run later).canHydrate
      rw [hydrate_of_not_canHydrate hn]

/-! ## Taking what was fetched -/

variable {c : Conversation}

/-- The messages of a conversation that was fetched. -/
def offered (s : Session) (c : Conversation) : List Message :=
  (c.toMessages s.ids s.now).1

/-- The session that they are offered to. -/
def prepared (s : Session) (c : Conversation) : Session :=
  { s with ids := (c.toMessages s.ids s.now).2 }

theorem takeFetched_error (s : Session) (e : Error) :
    (s.takeFetched (.error e)).1 ≠ .ok true ∧ (s.takeFetched (.error e)).2 = s := by
  cases e <;> exact ⟨nofun, rfl⟩

theorem takeFetched_ok (hc : s.canHydrate = true) (c : Conversation) :
    s.takeFetched (.ok c) = (.ok true, (s.prepared c).hydrated (s.offered c)) := by
  have hp : (s.prepared c).canHydrate = true := hc
  calc s.takeFetched (.ok c)
    _ = (.ok ((s.prepared c).hydrate (s.offered c)).1,
          ((s.prepared c).hydrate (s.offered c)).2) := rfl
    _ = _ := by rw [hydrate_of_canHydrate hp]

/-- Nothing changes either if there is nothing to take of what was fetched. -/
theorem prepared_hydrated (hc : s.canHydrate = true) (hn : s.offered c = []) :
    (s.prepared c).hydrated (s.offered c) = s := by
  have hp : (s.prepared c).canHydrate = true := hc
  have hids : (c.toMessages s.ids s.now).2 = s.ids := Conversation.snd_toMessages hn
  rw [hn, hydrated_nil hp, prepared, hids]

end Session

/-! ## Services -/

namespace Service

/-- What happens to a service. -/
inductive Input where
  | command (c : Command)
  /-- The conversation is to be loaded, and this comes of asking for it. -/
  | load (fetched : Except Error Conversation)
  | event (e : Envelope)
  | elapse (time : Nat)

/-- Take an input. -/
def react (v : Service) : Input → Service
  | .command c => (v.perform c).2
  | .load fetched => (v.hydrate fetched).2
  | .event e => v.deliver e
  | .elapse time => { v with session := v.session.elapse time }

/-- Take inputs in order. -/
def run (v : Service) (inputs : List Input) : Service :=
  inputs.foldl react v

variable {v : Service} {c : Conversation}

theorem hydrate_of_not_wouldFetch (hw : v.wouldFetch = false)
    (fetched : Except Error Conversation) :
    (v.hydrate fetched).1 ≠ .ok true ∧ (v.hydrate fetched).2 = v := by
  obtain ⟨session, closed, hasStore⟩ := v
  rw [hydrate]
  cases closed with
  | true => exact ⟨nofun, rfl⟩
  | false =>
    cases hasStore with
    | false => exact ⟨nofun, rfl⟩
    | true =>
      have hc : session.canHydrate = false := hw
      simp only [hc]
      exact ⟨nofun, rfl⟩

theorem hydrate_of_wouldFetch (hw : v.wouldFetch = true) (fetched : Except Error Conversation) :
    v.session.canHydrate = true ∧
      v.hydrate fetched = ((v.session.takeFetched fetched).1,
        { v with session := (v.session.takeFetched fetched).2 }) := by
  rw [wouldFetch, Bool.and_eq_true, Bool.and_eq_true, Bool.not_eq_true'] at hw
  obtain ⟨⟨ho, hs⟩, hc⟩ := hw
  refine ⟨hc, ?_⟩
  rw [hydrate, ho, hs, hc]
  rfl

/-- A service takes messages that were fetched into a session without any, or nothing happens. -/
theorem hydrate_cases (v : Service) (fetched : Except Error Conversation) :
    ((v.hydrate fetched).1 ≠ .ok true ∧ (v.hydrate fetched).2 = v) ∨
    ∃ c, fetched = .ok c ∧ v.session.canHydrate = true ∧
      v.hydrate fetched = (.ok true,
        { v with session := (v.session.prepared c).hydrated (v.session.offered c) }) := by
  cases hw : v.wouldFetch with
  | false => exact .inl (hydrate_of_not_wouldFetch hw fetched)
  | true =>
    obtain ⟨hc, hh⟩ := hydrate_of_wouldFetch hw fetched
    cases fetched with
    | error e =>
      obtain ⟨hr, hs⟩ := v.session.takeFetched_error e
      rw [hh, hs]
      exact .inl ⟨hr, rfl⟩
    | ok c =>
      rw [hh, Session.takeFetched_ok hc]
      exact .inr ⟨c, rfl, hc, rfl⟩

/-- What every input of a session keeps, whatever its next identifier is, every input of a
    service keeps. -/
theorem session_induction {P : Session → Prop} {inputs : List Input}
    (hids : ∀ s ids, P s → P { s with ids }) (step : ∀ s i, P s → P (s.react i).2)
    (start : P v.session) : P (v.run inputs).session := by
  induction inputs generalizing v with
  | nil => exact start
  | cons i inputs ih =>
    refine ih ?_
    cases i with
    | command c =>
      rw [react, perform]
      split
      · exact start
      · exact step _ (.command c) start
    | load fetched =>
      rw [react]
      rcases v.hydrate_cases fetched with ⟨-, hv⟩ | ⟨c, -, hc, hv⟩
      · rw [hv]
        exact start
      · -- The session is offered the messages, with the identifiers that are left for it.
        have hp : (v.session.prepared c).canHydrate = true := hc
        rw [hv]
        exact Session.react_hydrate hp (v.session.offered c) ▸ step _ _ (hids _ _ start)
    | event e =>
      rw [react, deliver]
      split
      · exact start
      · exact step _ (.event e) start
    | elapse time => exact step _ (.elapse time) start

theorem hydrate_of_inhabited (h : v.session.Inhabited) (fetched : Except Error Conversation) :
    (v.hydrate fetched).1 ≠ .ok true := by
  rcases v.hydrate_cases fetched with ⟨hn, -⟩ | ⟨c, -, hc, -⟩
  · exact hn
  · exact absurd (h.canHydrate.symm.trans hc) Bool.noConfusion

/-- Whatever happens to a service, it loads a conversation once, if there are messages in it. -/
theorem hydrates_once (h : v.session.Coherent) (fetched : Except Error Conversation) :
    ((v.hydrate fetched).1 ≠ .ok true → (v.hydrate fetched).2 = v) ∧
    ((v.hydrate fetched).1 = .ok true → ∃ c, fetched = .ok c ∧
      (v.hydrate fetched).2.session.transcript.Restores (v.session.offered c) ∧
      (v.session.offered c = [] → (v.hydrate fetched).2 = v) ∧
      (v.session.offered c ≠ [] → ∀ later fetched',
        (((v.hydrate fetched).2.run later).hydrate fetched').1 ≠ .ok true)) := by
  rcases v.hydrate_cases fetched with ⟨hn, hv⟩ | ⟨c, rfl, hc, hv⟩
  · exact ⟨fun _ => hv, fun ht => absurd ht hn⟩
  · have hp : (v.session.prepared c).canHydrate = true := hc
    rw [hv]
    refine ⟨fun hn => absurd rfl hn, fun _ => ⟨c, rfl, Session.restores_hydrated _ _, fun hn => ?_,
      fun hm later fetched' => hydrate_of_inhabited ?_ fetched'⟩⟩
    · rw [Session.prepared_hydrated hc hn]
    · have hs := (h.withIds (c.toMessages v.session.ids v.session.now).2).inhabited_hydrated hp hm
      exact session_induction (fun _ ids h => h.withIds ids) (fun _ i h => h.react i) hs

end Service

/-- Stored messages are loaded once at most, by a session and by a service, whatever happens
    before and after. If they are, they are all messages of the transcript, in their order, and
    none is streaming; else, and if loading them fails, nothing changes. Only an empty list may be
    loaded again, which changes nothing either. -/
theorem Session.loads_messages_once (conversationId : String) (interval now : Nat) (ids : Ids) :
    (∀ inputs messages,
      let s := (start conversationId interval now ids).run inputs
      let s' := (s.hydrate messages).2
      ((s.hydrate messages).1 = false → s' = s) ∧
      ((s.hydrate messages).1 = true →
        s'.transcript.Restores messages ∧ (messages = [] → s' = s) ∧
        (messages ≠ [] → ∀ later messages', ((s'.run later).hydrate messages').1 = false))) ∧
    ∀ hasStore inputs fetched,
      let v := Service.run { session := start conversationId interval now ids, hasStore } inputs
      let v' := (v.hydrate fetched).2
      ((v.hydrate fetched).1 ≠ .ok true → v' = v) ∧
      ((v.hydrate fetched).1 = .ok true → ∃ c, fetched = .ok c ∧
        v'.session.transcript.Restores (v.session.offered c) ∧
        (v.session.offered c = [] → v' = v) ∧
        (v.session.offered c ≠ [] →
          ∀ later fetched', ((v'.run later).hydrate fetched').1 ≠ .ok true)) := by
  have hstart : (start conversationId interval now ids).Coherent := coherent_start _ _ _ _
  refine ⟨fun inputs messages => (hstart.run inputs).hydrates_once messages,
    fun hasStore inputs fetched => Service.hydrates_once ?_ fetched⟩
  exact Service.session_induction (fun _ ids h => h.withIds ids) (fun _ i h => h.react i) hstart

/-- A conversation is loaded after a decision that left no message, and not again after a turn. -/
theorem Session.loads_messages_once_fetched :
    let stored : Conversation := { id := some "c", messages := [
      { id := some "u", role := some "user", olderRole := none, content := .string "hello",
        timestamp := some 0, segments := [], usage := none }] }
    let messages := (stored.toMessages ⟨toString, 0⟩ 0).1
    let s := (start "c" 100 0 ⟨toString, 0⟩).run [.command (.hydrate messages)]
    let inputs := [.command (.decideSingle "c1" true none), .event ⟨1, .completed none⟩]
    let v := Service.run { session := start "c" 100 0 ⟨toString, 0⟩, hasStore := true } inputs
    let v' := (v.hydrate (.ok stored)).2
    (s.hydrate []).2 = s ∧ (v.hydrate (.error (.notFound "c"))).2 = v ∧
      (v.hydrate (.ok stored)).1 = .ok true ∧
      v'.session.transcript.Restores (v.session.offered stored) ∧
      ((v'.run [.command (.submit "go")]).hydrate (.ok stored)).1 ≠ .ok true := by
  intro stored messages s inputs v v'
  obtain ⟨hsession, hservice⟩ := loads_messages_once "c" 100 0 ⟨toString, 0⟩
  have hv : (v.hydrate (.ok stored)).1 = .ok true := rfl
  obtain ⟨_, ⟨⟩, hr, -, hn⟩ := (hservice true inputs (.ok stored)).2 hv
  exact ⟨(hsession [.command (.hydrate messages)] []).1 rfl,
    (hservice true inputs (.error (.notFound "c"))).1 nofun, hv, hr, hn (by decide) _ _⟩

/-- An empty list is taken although there is nothing in it, and the next one is taken too. -/
theorem Session.loads_nothing_twice :
    let s := start "c" 100 0 ⟨toString, 0⟩
    (s.hydrate []).1 = true ∧ (s.hydrate []).2.transcript.messages = [] ∧
      ((s.hydrate []).2.hydrate []).1 = true := by
  decide

end Dialogue
