import Dialogue.Proofs.Session.Coherence

/-!
# How the stream of the turn goes on

An event that is not terminal writes. Every other input leaves the stream of the turn as it
is, ends it, or opens another one, which has a generation larger than any before and has used
nothing yet (`Session.Renews`).

The main statement is that these are all (`renews_of_reaction`, `renews_or_writes`). So
generations never decrease, and the stream of the turn is that of the turn before or a new one
(`turn_react`). The events of a stream are taken while it is that of the turn, none before and
none after (`eventsOf_ahead`, `Coherent.eventsOf_over`).
-/

namespace Dialogue

/-- The event that a transition takes from a stream, if it is one of the stream and counts. -/
def Transition.eventOf? (t : Transition) (generation : Nat) : Option TurnEvent :=
  match t.input with
  | .event e =>
    if e.generation = generation ∧ t.before.isLive generation = true then some e.event else none
  | _ => none

/-- The events that were taken from a stream, in order. -/
def eventsOf (h : List Transition) (generation : Nat) : List TurnEvent :=
  h.filterMap (·.eventOf? generation)

namespace Session

variable {s s' : Session} {i : Input}

/-- From one session to another the stream of the turn stayed as it was, or it ended, or it
    gave way to another one, which has used nothing yet. -/
inductive Renews (s s' : Session) : Prop
  | stays : s'.turn = s.turn → s'.generation = s.generation → s'.usage = s.usage →
      s'.transcript = s.transcript → Renews s s'
  | ends : s'.turn = none → s.generation ≤ s'.generation → Renews s s'
  | opens : s'.turn.map (·.generation) = some s'.generation → s.generation < s'.generation →
      s'.usage = .empty → Renews s s'

theorem renews_openStream (hg : s.generation ≤ s'.generation) (kind : TurnKind)
    (request : Request) (resumed : Option Message) :
    s.Renews (s'.openStream kind request resumed) := by
  rw [openStream_eq]
  exact .opens rfl (Nat.lt_succ_of_le hg) rfl

theorem renews_beginTurn (hg : s.generation ≤ s'.generation) (content : String) :
    s.Renews (s'.beginTurn content) := by
  have hw : s.generation ≤ (s'.withInput content).generation := hg
  rw [beginTurn_eq]
  exact renews_openStream hw _ _ _

theorem renews_beginContinuation (hg : s.generation ≤ s'.generation) (callId : String)
    (decision : Decision) (reason : Option String) :
    s.Renews (s'.beginContinuation callId decision reason) := by
  have hw : s.generation ≤ s'.withoutResumed.generation := hg
  rw [beginContinuation_eq]
  exact renews_openStream hw _ _ _

theorem renews_drainQueue (hg : s.generation ≤ s'.generation) (ht : s'.turn = none) :
    s.Renews s'.drainQueue := by
  rcases s'.drainQueue_cases with ⟨hd, _⟩ | ⟨entry, rest, _, _, hd⟩
  · rw [hd]
    exact .ends ht hg
  · have hr : s.generation ≤ (s'.afterHead rest).generation := hg
    rw [hd]
    exact renews_beginTurn hr _

theorem renews_settle (hg : s.generation ≤ s'.generation) (ht : s'.turn = none)
    (outcome : Outcome) : s.Renews (s'.settle outcome) := by
  have hr : s.generation ≤ (s'.rested outcome).generation := hg
  rw [settle_eq]
  exact renews_drainQueue hr ht

theorem generation_setPhase (s : Session) (p : Phase) :
    (s.setPhase p).generation = s.generation := by
  rw [setPhase_eq]

theorem generation_le_interrupt (s : Session) : s.generation ≤ s.interrupt.generation := by
  cases ht : s.turn with
  | none => exact Nat.le_of_eq (congrArg Session.generation (interrupt_of_noTurn ht)).symm
  | some turn =>
    rw [interrupt_eq ht]
    exact Nat.le_succ _

/-- Every input but an event that writes leaves the stream of the turn as it is, or ends it,
    or opens another one. -/
theorem renews_of_reaction {r : Option (Except Error Reply)} (hr : s.Reaction i r s')
    (hw : ¬∃ e, i = .event e ∧ s.isLive e.generation = true ∧ e.event.isTerminal = false) :
    s.Renews s' := by
  have hi := s.generation_le_interrupt
  have hself : s.Renews s := .stays rfl rfl rfl rfl
  cases hr with
  | refuses _ => exact hself
  | ignores _ => exact hself
  | waits => exact .stays rfl rfl rfl rfl
  | writes hl he => exact absurd ⟨_, rfl, hl, he⟩ hw
  | @completes _ time hl =>
    obtain ⟨_, turn, ht⟩ := (s.isLive_iff _).1 hl
    have hg : s.generation ≤ (s.completed turn time).generation := Nat.le_refl _
    have hg' : s.generation ≤ (s.completed turn time).releaseImmediate.generation := Nat.le_refl _
    rw [complete_eq ht]
    split
    · exact renews_beginContinuation hg _ _ _
    · exact renews_settle hg' rfl _
  | @fails _ message hl =>
    obtain ⟨_, turn, ht⟩ := (s.isLive_iff _).1 hl
    have hg : s.generation ≤ (s.failed turn message).generation := Nat.le_refl _
    rw [fail_eq ht]
    exact renews_settle hg rfl _
  | starts _ _ _ => exact renews_beginTurn (Nat.le_refl _) _
  | @queues content _ _ =>
    cases ht : s.turn with
    | none =>
      have hg : s.generation ≤ (s.withQueued content).generation := Nat.le_refl _
      exact renews_drainQueue hg ht
    | some turn =>
      have hb : ¬(s.withQueued content).CanDrain := fun hc =>
        Option.some_ne_none turn (ht.symm.trans hc.noTurn)
      rw [drainQueue_of_not_canDrain hb]
      exact .stays rfl rfl rfl rfl
  | restarts _ =>
    have hg : s.generation ≤ s.interrupt.releaseImmediate.generation := hi
    exact renews_beginTurn hg _
  | @pulls _ entry before after _ _ _ _ =>
    have hg : s.generation ≤ (s.withQueue ⟨before ++ after, true⟩).interrupt.generation :=
      (s.withQueue ⟨before ++ after, true⟩).generation_le_interrupt
    exact renews_beginTurn hg _
  | removes _ _ _ => exact .stays rfl rfl rfl rfl
  | restsOn _ =>
    rw [abortApprovals_eq]
    exact .stays rfl rfl rfl rfl
  | cancels _ =>
    have hg : s.generation ≤ (s.cancelled.setPhase .idle).generation := by
      have hg := (s.releaseImmediate.setPhase .cancelling).generation_le_interrupt
      rw [generation_setPhase] at hg ⊢
      exact hg
    refine renews_drainQueue hg ?_
    rw [setPhase_eq]
    exact turn_interrupt _
  | decides _ => exact renews_beginContinuation hi _ _ _
  | @decidesAll decision _ rest _ _ =>
    have hg : s.generation ≤ (s.bulkBegun rest ⟨0, rest.length + 1, decision⟩).generation := hi
    exact renews_beginContinuation hg _ _ _
  | hydrates hl =>
    obtain ⟨_, ht, _⟩ := (s.canHydrate_iff).1 hl
    exact .ends ht (Nat.le_refl _)
  | shutsDown =>
    rw [setPhase_eq]
    exact .ends s.turn_interrupt hi

/-- So an input is an event that writes, or it is another one. -/
theorem renews_or_writes (s : Session) (i : Input) :
    (s.Renews (s.react i).2 ∧
      ¬∃ e, i = .event e ∧ s.isLive e.generation = true ∧ e.event.isTerminal = false) ∨
    ∃ e, i = .event e ∧ s.isLive e.generation = true ∧ e.event.isTerminal = false := by
  by_cases hw : ∃ e, i = .event e ∧ s.isLive e.generation = true ∧ e.event.isTerminal = false
  · exact .inr hw
  · exact .inl ⟨renews_of_reaction (s.reaction i) hw, hw⟩

theorem generation_le_react (s : Session) (i : Input) :
    s.generation ≤ (s.react i).2.generation := by
  rcases s.renews_or_writes i with ⟨hr, _⟩ | ⟨e, rfl, hl, he⟩
  · cases hr with
    | stays _ hg _ _ => exact Nat.le_of_eq hg.symm
    | ends _ hg => exact hg
    | opens _ hg _ => exact Nat.le_of_lt hg
  · rw [react_of_live hl]
    exact Nat.le_of_eq (continues_apply s he).generation.symm

/-- The stream of the turn was that of the turn before, or it is a new one. -/
theorem turn_react {g : Nat} (h : (s.react i).2.turn.map (·.generation) = some g) :
    s.turn.map (·.generation) = some g ∨ s.generation < g := by
  rcases s.renews_or_writes i with ⟨hr, _⟩ | ⟨e, rfl, hl, he⟩
  · cases hr with
    | stays ht _ _ _ => exact .inl (ht ▸ h)
    | ends ht _ => rw [ht] at h; exact nomatch h
    | opens ht hg _ => exact .inr (Option.some.inj (ht.symm.trans h) ▸ hg)
  · rw [react_of_live hl] at h
    obtain ⟨runId, ht⟩ := (continues_apply s he).turn
    rw [ht, Option.map_map] at h
    exact .inl h

/-! ## The events of a stream -/

theorem eventsOf_append (h h' : List Transition) (g : Nat) :
    eventsOf (h ++ h') g = eventsOf h g ++ eventsOf h' g :=
  List.filterMap_append

theorem eventsOf_singleton (t : Transition) (g : Nat) :
    eventsOf [t] g = (t.eventOf? g).toList := by
  rw [eventsOf, List.filterMap_cons, List.filterMap_nil]
  cases t.eventOf? g <;> rfl

theorem eventsOf_concat (h : List Transition) (t : Transition) (g : Nat) :
    eventsOf (h ++ [t]) g = eventsOf h g ++ (t.eventOf? g).toList := by
  rw [eventsOf_append, eventsOf_singleton]

theorem eventsOf_history_cons (s : Session) (i : Input) (inputs : List Input) (g : Nat) :
    eventsOf (s.history (i :: inputs)) g =
      ((s.transition i).eventOf? g).toList ++ eventsOf ((s.react i).2.history inputs) g := by
  rw [history, ← List.singleton_append, eventsOf_append, eventsOf_singleton]

theorem eventOf?_of_live {e : Envelope} (hl : s.isLive e.generation = true) :
    (s.transition (.event e)).eventOf? e.generation = some e.event :=
  if_pos ⟨rfl, hl⟩

/-- Events are taken from the stream of the turn alone. -/
theorem eventOf?_of_not_turn {g : Nat} (hg : ¬(g = s.generation ∧ ∃ turn, s.turn = some turn)) :
    (s.transition i).eventOf? g = none := by
  cases i with
  | command c | elapse time => rfl
  | event e => exact if_neg fun h => hg ((s.isLive_iff g).1 h.2)

/-- An input that is no event that writes takes a terminal event at most. -/
theorem isTerminal_of_eventOf?
    (hw : ¬∃ e, i = .event e ∧ s.isLive e.generation = true ∧ e.event.isTerminal = false)
    {g : Nat} : ∀ e ∈ (s.transition i).eventOf? g, e.isTerminal = true := by
  cases i with
  | command c | elapse time => exact fun e he => absurd he (Option.not_mem_none e)
  | event e =>
    intro e' he
    obtain ⟨⟨hg, hl⟩, hs⟩ := Option.ite_none_right_eq_some.1 he
    rw [← Option.some.inj hs]
    exact Bool.of_not_eq_false fun hf => hw ⟨e, rfl, hg ▸ hl, hf⟩

theorem generation_le_run (s : Session) (inputs : List Input) :
    s.generation ≤ (s.run inputs).generation :=
  run_induction (P := fun s' => s.generation ≤ s'.generation) (Nat.le_refl _)
    fun s' i _ h => Nat.le_trans h (s'.generation_le_react i)

/-- No event is taken from a stream before its generation is reached. -/
theorem eventsOf_ahead (s : Session) (inputs : List Input) {g : Nat}
    (hg : (s.run inputs).generation < g) : eventsOf (s.history inputs) g = [] := by
  induction inputs generalizing s with
  | nil => rfl
  | cons i inputs ih =>
    have hs : s.generation < g := Nat.lt_of_le_of_lt (s.generation_le_run (i :: inputs)) hg
    rw [eventsOf_history_cons, ih _ hg, eventOf?_of_not_turn fun h => Nat.ne_of_gt hs h.1]
    rfl

/-- None is taken from a stream that is over. -/
theorem Coherent.eventsOf_over (hc : s.Coherent) {g : Nat} (hg : g ≤ s.generation)
    (ht : s.turn.map (·.generation) ≠ some g) (inputs : List Input) :
    eventsOf (s.history inputs) g = [] := by
  induction inputs generalizing s with
  | nil => rfl
  | cons i inputs ih =>
    have hn : (s.transition i).eventOf? g = none := eventOf?_of_not_turn <| by
      rintro ⟨rfl, turn, hs⟩
      exact ht (by rw [hs, Option.map_some, hc.generation turn hs])
    have hrest := ih (hc.react i) (Nat.le_trans hg (s.generation_le_react i)) fun h =>
      (turn_react h).elim ht (Nat.not_lt.2 hg)
    rw [eventsOf_history_cons, hn, hrest]
    rfl

/-- After the input that ends a stream, nothing more is taken from it, and by that input the
    terminal event at most. -/
theorem Coherent.eventsOf_ending (hc : s.Coherent) {turn : ActiveTurn} (ht : s.turn = some turn)
    (hn : (s.react i).2.turn.map (·.generation) ≠ some turn.generation) (inputs : List Input) :
    ∀ e ∈ eventsOf (s.history (i :: inputs)) turn.generation, e.isTerminal = true := by
  have hg : turn.generation ≤ (s.react i).2.generation :=
    hc.generation turn ht ▸ s.generation_le_react i
  rw [eventsOf_history_cons, (hc.react i).eventsOf_over hg hn, List.append_nil]
  rcases s.renews_or_writes i with ⟨_, hw⟩ | ⟨e, rfl, hl, he⟩
  · exact fun e he => isTerminal_of_eventOf? hw e (Option.mem_toList.1 he)
  · obtain ⟨runId, hr⟩ := (continues_apply s he).turn
    rw [react_of_live hl, hr, ht] at hn
    exact absurd rfl hn

end Session

end Dialogue
