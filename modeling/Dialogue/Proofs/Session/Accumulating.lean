import Dialogue.Proofs.Session.Gaining
import Dialogue.Proofs.Session.Renewing
import Dialogue.Proofs.Session.Watching

/-!
# Messages as they were written

A message is written over one stream or several, if decisions continue it. It keeps its place in
the transcript, so what was written to it can be read off the history by the place
(`Session.writtenAt`).

* `textInProgress_run`: while a stream goes on, the text of the message in progress is that at
  its start, with the tokens of the stream after it;
* `Recorded`, `Chronicled`: every message of the assistant has the content and the outline of
  what was written at its place, after what it was loaded with, from the start on
  (`chronicled_run`);
* `messages_accumulate`: so the message of a stream is what it resumes and then its tokens, in
  progress and when the stream has ended, and the segments of a message that was not loaded are
  laid out as it was written.
-/

namespace Dialogue

open Written

/-- The text of a token. -/
def TurnEvent.token? : TurnEvent → Option String
  | .token words => some words
  | _ => none

namespace Transition

/-- What a transition writes to the message in progress. -/
def written (t : Transition) : List Written :=
  match t.input with
  | .event e => if t.before.isLive e.generation then t.before.written e.event else []
  | _ => []

/-- The place of the message in progress, or of the one that would begin. -/
def place (t : Transition) : Nat :=
  t.before.transcript.finalized.length

end Transition

/-- The tokens of a stream, in order. -/
def tokensOf (h : List Transition) (generation : Nat) : List String :=
  (eventsOf h generation).filterMap TurnEvent.token?

/-- What was written to the message at a place, in order. -/
def writtenAt (h : List Transition) (n : Nat) : List Written :=
  (h.filter (·.place == n)).flatMap (·.written)

/-- The messages that were loaded. -/
def loadedBy (h : List Transition) : List Message :=
  h.flatMap (·.loaded)

namespace Session

open Transcript

variable {s s' : Session} {h : List Transition} {i : Input} {ws : List Written}

/-! ## The tokens of a stream -/

theorem tokensOf_append (h h' : List Transition) (g : Nat) :
    tokensOf (h ++ h') g = tokensOf h g ++ tokensOf h' g := by
  rw [tokensOf, eventsOf_append, List.filterMap_append]
  rfl

theorem tokensOf_eq_nil {g : Nat} (ht : ∀ e ∈ eventsOf h g, e.isTerminal = true) :
    tokensOf h g = [] := by
  refine List.filterMap_eq_nil_iff.2 fun e he => ?_
  have ht := ht e he
  cases e with
  | completed time | error message => rfl
  | _ => exact Bool.noConfusion ht

/-- The text of what an event writes is that of its token. -/
theorem texts_written (s : Session) (e : TurnEvent) : texts (s.written e) = e.token?.toList := by
  cases e with
  | token words => rfl
  | toolsPending us | tool kind u => exact texts_calls _
  | _ => rfl

/-- What is written adds its text to the message in progress. -/
theorem Wrote.textInProgress (h : s.Wrote ws s') :
    s'.textInProgress = s.textInProgress ++ String.join (texts ws) := by
  cases h with
  | nothing hw _ hc =>
    have hs : s'.textInProgress = s.textInProgress := by
      have hm := congrArg (fun m => (m.map (·.content)).getD "") hc
      rw [Option.map_map, Option.map_map] at hm
      exact hm
    rw [hs, join_texts_of_blank hw]
    exact String.append_empty.symm
  | gains hg hx =>
    rw [s.textInProgress_eq, ← hg.content, Session.textInProgress, hx]
    rfl

/-- As long as the stream of the turn is the same, an input adds the text of its token to the
    message in progress. -/
theorem Coherent.textInProgress_react (hc : s.Coherent) {turn : ActiveTurn}
    (ht : s.turn = some turn)
    (hg : (s.react i).2.turn.map (·.generation) = some turn.generation) :
    (s.react i).2.textInProgress =
      s.textInProgress ++ String.join (tokensOf [s.transition i] turn.generation) := by
  rcases s.renews_or_writes i with ⟨hr, hw⟩ | ⟨e, rfl, hl, he⟩
  · have hn : tokensOf [s.transition i] turn.generation = [] := tokensOf_eq_nil fun e he => by
      rw [eventsOf_singleton] at he
      exact isTerminal_of_eventOf? hw e (Option.mem_toList.1 he)
    rw [hn, String.join_nil, String.append_empty]
    cases hr with
    | stays _ _ _ hx => rw [textInProgress, hx, textInProgress]
    | ends hs' _ =>
      rw [hs'] at hg
      exact absurd hg.symm (Option.some_ne_none _)
    | opens hs' hgt _ =>
      have he := Option.some.inj (hs'.symm.trans hg)
      rw [he, hc.generation turn ht] at hgt
      exact absurd hgt (Nat.lt_irrefl _)
  · have hgen : turn.generation = e.generation :=
      (hc.generation turn ht).trans ((s.isLive_iff _).1 hl).1.symm
    have hn : tokensOf [s.transition (.event e)] turn.generation = e.event.token?.toList := by
      rw [tokensOf, eventsOf_singleton, hgen, eventOf?_of_live hl, Option.toList_some,
        List.filterMap_cons, List.filterMap_nil]
      cases e.event.token? <;> rfl
    rw [react_of_live hl, (wrote_apply hc.belongsTo he).textInProgress, texts_written, hn]

/-- While a stream goes on, the text of the message in progress goes on with its tokens. -/
theorem Coherent.textInProgress_run (hc : s.Coherent) {turn : ActiveTurn}
    (ht : s.turn = some turn) (inputs : List Input)
    (hg : (s.run inputs).turn.map (·.generation) = some turn.generation) :
    (s.run inputs).textInProgress =
      s.textInProgress ++ String.join (tokensOf (s.history inputs) turn.generation) := by
  -- The induction is on the last input: the stream was that of the turn before it, too.
  induction inputs using List.reverseRecOn with
  | nil => exact String.append_empty.symm
  | append_singleton inputs i ih =>
    have hle : turn.generation ≤ (s.run inputs).generation :=
      hc.generation turn ht ▸ s.generation_le_run inputs
    rw [run_concat] at hg ⊢
    have hbefore := (turn_react hg).resolve_right (Nat.not_lt.2 hle)
    obtain ⟨turn', ht', hgen⟩ := Option.map_eq_some_iff.1 hbefore
    rw [← hgen] at hg
    rw [(hc.run inputs).textInProgress_react ht' hg, hgen, ih hbefore, history_append,
      tokensOf_append, String.join_append, String.append_assoc]
    rfl

/-- An input that is taken while a stream ends or opens writes nothing and loads nothing. -/
theorem Coherent.moves_of_turn (hc : s.Coherent)
    (hn : (s.react i).2.turn.map (·.generation) ≠ s.turn.map (·.generation)) :
    s.transcript.Moves (s.react i).2.transcript := by
  refine hc.moves (s.reaction i) ?_ ?_
  · rintro ⟨e, rfl, hl, he⟩
    obtain ⟨runId, ht⟩ := (continues_apply s he).turn
    refine hn ?_
    rw [react_of_live hl, ht, Option.map_map]
    rfl
  · rintro ⟨messages, rfl, hh⟩
    exact hn (by rw [((s.reaction _).eq_hydrated hh).2]; rfl)

/-- What a stream finds in progress when it opens is a message that was there before, and that
    was taken back to be continued. -/
theorem Coherent.resumed_of_opening (hc : s.Coherent) (hl : s.transcript.Lasting) {g : Nat}
    (hn : s.turn.map (·.generation) ≠ some g)
    (hg : (s.react i).2.turn.map (·.generation) = some g) :
    ∀ p ∈ (s.react i).2.transcript.inProgress, p.resumed = true ∧ ∃ m,
      s.transcript.messages[(s.react i).2.transcript.finalized.length]? = some m ∧
        m.unmarked = p.message.unmarked := by
  intro p hp
  have hm := hc.moves_of_turn (i := i) fun h => hn (h ▸ hg)
  have hc' := hc.react i
  refine ⟨(hm.inProgress p hp).resolve_left fun hp' => ?_, ?_⟩
  · -- The stream is a new one, so the message in progress is not that of the one before.
    obtain ⟨turn, ht, rfl⟩ := Option.map_eq_some_iff.1 hg
    have hgt := (turn_react hg).resolve_left hn
    rw [hc'.generation turn ht, ← hc'.belongsTo p hp, hc.belongsTo p hp'] at hgt
    exact Nat.lt_irrefl _ hgt
  · refine (hm.keeps hl).getElem? ?_ ((hm.carries hl).lasting.isAssistant p hp)
    rw [messages_of_some hp, List.getElem?_concat_length]

/-- The message in progress when a stream ends stays in its place, and says what it said. -/
theorem Coherent.kept_of_ending (hc : s.Coherent) (hl : s.transcript.Lasting) {g : Nat}
    (hg : s.turn.map (·.generation) = some g)
    (hn : (s.react i).2.turn.map (·.generation) ≠ some g) :
    ∀ p ∈ s.transcript.inProgress, ∃ m,
      (s.react i).2.transcript.messages[s.transcript.finalized.length]? = some m ∧
        m.unmarked = p.message.unmarked := by
  intro p hp
  have hm := hc.moves_of_turn (i := i) fun h => hn (h.trans hg)
  refine (hm.keeps hl).getElem?_of ?_
  rw [messages_of_some hp, List.getElem?_concat_length]

/-- So the text of a stream that was opened by some input is what it found in progress, with
    all its tokens after it: none were taken before. -/
theorem Coherent.textInProgress_of_opening {past more : List Input} {g : Nat}
    (hc : (s.run past).Coherent) (hn : (s.run past).turn.map (·.generation) ≠ some g)
    (hg : (s.run (past ++ [i])).turn.map (·.generation) = some g)
    (hg' : (s.run (past ++ i :: more)).turn.map (·.generation) = some g) :
    (s.run (past ++ i :: more)).textInProgress = (s.run (past ++ [i])).textInProgress ++
      String.join (tokensOf (s.history (past ++ i :: more)) g) := by
  have hrun : s.run (past ++ i :: more) = ((s.run past).react i).2.run more :=
    run_append s past (i :: more)
  rw [run_concat] at hg ⊢
  have hlt : (s.run past).generation < g := (turn_react hg).resolve_left hn
  have htokens : tokensOf (s.history (past ++ i :: more)) g =
      tokensOf (((s.run past).react i).2.history more) g := by
    rw [tokensOf, history_append, eventsOf_append, eventsOf_ahead s past hlt,
      eventsOf_history_cons, eventOf?_of_not_turn fun h => Nat.ne_of_gt hlt h.1]
    rfl
  obtain ⟨turn, ht, rfl⟩ := Option.map_eq_some_iff.1 hg
  rw [hrun] at hg' ⊢
  rw [htokens]
  exact (hc.react i).textInProgress_run ht more hg'

/-- None are taken by the input that ends a stream. -/
theorem Coherent.tokensOf_ending {inputs : List Input} {last : Input} {g : Nat}
    (hc : (s.run inputs).Coherent) (hg : (s.run inputs).turn.map (·.generation) = some g)
    (hn : ((s.run inputs).react last).2.turn.map (·.generation) ≠ some g) :
    tokensOf (s.history (inputs ++ [last])) g = tokensOf (s.history inputs) g := by
  obtain ⟨turn, ht, rfl⟩ := Option.map_eq_some_iff.1 hg
  rw [history_append, tokensOf_append, tokensOf_eq_nil (hc.eventsOf_ending ht hn []),
    List.append_nil]

/-! ## What a place has -/

/-- A message is what was loaded, if it was, and what was written to it since: that is the end
    of its content, and all of its outline if it was not loaded. -/
structure Recorded (start : Option Message) (ws : List Written) (m : Message) : Prop where
  content : m.content = (start.map (·.content)).getD "" ++ String.join (texts ws)
  spelled : start = none → spelled m.outline = spelled ws
  tidy : start = none → Tidy m.outline

theorem recorded_begin {start : Option Message} (hn : start = none) (hw : Written.spelled ws = [])
    (id : String) (now : Int) : Recorded start ws (.beginAssistant id now) where
  content := by
    rw [hn, join_texts_of_blank hw]
    rfl
  spelled _ := hw.symm
  tidy _ := tidy_nil

theorem Recorded.gains {start : Option Message} {m m' : Message} {ws' : List Written}
    (h : Recorded start ws m) (hg : m.Gains ws' m') : Recorded start (ws ++ ws') m' where
  content := by rw [hg.content, h.content, texts_append, String.join_append, String.append_assoc]
  spelled hn := by rw [hg.spelled, h.spelled hn, spelled_append]
  tidy hn := hg.tidy (h.tidy hn)

theorem Recorded.of_unmarked {start : Option Message} {m m' : Message} (h : Recorded start ws m)
    (hm : m.unmarked = m'.unmarked) : Recorded start ws m' := by
  have hc : m.content = m'.content := congrArg (·.content) hm
  have ho : m.outline = m'.outline := congrArg (fun m => m.segments.map Segment.outline) hm
  exact ⟨hc ▸ h.content, ho ▸ h.spelled, ho ▸ h.tidy⟩

/-- What is known of a session that comes with a history: every message of the assistant has
    what was written at its place, and nothing was written where there is no message. -/
structure Chronicled (h : List Transition) (s : Session) : Prop where
  coherent : s.Coherent
  lasting : s.transcript.Lasting
  loaded : (loadedBy h).length ≤ s.transcript.messages.length
  recorded : ∀ n m, s.transcript.messages[n]? = some m → m.isAssistant = true →
    Recorded (loadedBy h)[n]? (writtenAt h n) m
  blank : ∀ n, s.transcript.messages.length ≤ n → spelled (writtenAt h n) = []

theorem chronicled_start (conversationId : String) (interval now : Nat) (ids : Ids) :
    Chronicled [] (start conversationId interval now ids) where
  coherent := coherent_start conversationId interval now ids
  lasting := lasting_of_none rfl
  loaded := Nat.le_refl 0
  recorded _ _ hm := nomatch hm
  blank _ _ := rfl

theorem loadedBy_concat (h : List Transition) (t : Transition) :
    loadedBy (h ++ [t]) = loadedBy h ++ t.loaded := by
  rw [loadedBy, List.flatMap_append, List.flatMap_singleton]
  rfl

theorem writtenAt_concat (h : List Transition) (t : Transition) (n : Nat) :
    writtenAt (h ++ [t]) n = writtenAt h n ++ if t.place = n then t.written else [] := by
  by_cases hn : t.place = n <;> simp [writtenAt, hn]

/-- Only an event that writes writes. -/
theorem written_eq_nil
    (hw : ¬∃ e, i = .event e ∧ s.isLive e.generation = true ∧ e.event.isTerminal = false) :
    (s.transition i).written = [] := by
  cases i with
  | command c | elapse time => rfl
  | event e =>
    refine ite_eq_right_iff.2 fun hl => ?_
    have he : e.event.isTerminal = true := Bool.of_not_eq_false fun hf => hw ⟨e, rfl, hl, hf⟩
    obtain ⟨generation, event⟩ := e
    cases event with
    | completed time | error message => rfl
    | _ => exact Bool.noConfusion he

theorem loaded_eq_nil (hh : ¬∃ messages, i = .command (.hydrate messages) ∧ s.canHydrate = true) :
    (s.transition i).loaded = [] := by
  cases i with
  | command c =>
    cases c with
    | hydrate messages =>
      have hc : ¬s.canHydrate = true := fun hc => hh ⟨messages, rfl, hc⟩
      have hn : s.hydrate messages = (false, s) := if_neg hc
      rw [Transition.loaded, transition, react, perform, hn]
      rfl
    | _ => rfl
  | event e | elapse time => rfl

/-- Moves keep what is said, so the records stand. -/
theorem Chronicled.moves (hs : Chronicled h s)
    (hw : ¬∃ e, i = .event e ∧ s.isLive e.generation = true ∧ e.event.isTerminal = false)
    (hh : ¬∃ messages, i = .command (.hydrate messages) ∧ s.canHydrate = true) :
    Chronicled (h ++ [s.transition i]) (s.react i).2 := by
  have hm := hs.coherent.moves (s.reaction i) hw hh
  have hk := hm.keeps hs.lasting
  have hl : loadedBy (h ++ [s.transition i]) = loadedBy h := by
    rw [loadedBy_concat, loaded_eq_nil hh, List.append_nil]
  have ha (n : Nat) : writtenAt (h ++ [s.transition i]) n = writtenAt h n := by
    rw [writtenAt_concat, written_eq_nil hw, ite_self, List.append_nil]
  refine ⟨hs.coherent.react i, (hm.carries hs.lasting).lasting, ?_, ?_, ?_⟩
  · rw [hl]
    exact Nat.le_trans hs.loaded hk.length_le
  · intro n m hmem hass
    obtain ⟨m', hmem', hu⟩ := hk.getElem? hmem hass
    rw [hl, ha]
    exact (hs.recorded n m' hmem' ((congrArg Message.isAssistant hu).trans hass)).of_unmarked hu
  · intro n hn
    rw [ha]
    exact hs.blank n (Nat.le_trans hk.length_le hn)

/-- Stored messages come into a transcript where there was nothing. -/
theorem Chronicled.hydrates (hs : Chronicled h s) {messages : List Message}
    (hc : s.canHydrate = true) :
    Chronicled (h ++ [s.transition (.command (.hydrate messages))])
      (s.react (.command (.hydrate messages))).2 := by
  obtain ⟨hreply, hr⟩ := (s.reaction (.command (.hydrate messages))).eq_hydrated hc
  have hx : s.transcript.messages.length = 0 := by
    rw [((s.canHydrate_iff).1 hc).2.2]
    rfl
  have hm : (s.hydrated messages).transcript.messages = messages.map .settled :=
    List.append_nil _
  have hl : loadedBy (h ++ [s.transition (.command (.hydrate messages))]) = messages := by
    have hn : loadedBy h = [] := List.eq_nil_of_length_eq_zero (Nat.le_zero.1 (hx ▸ hs.loaded))
    have ht : (s.transition (.command (.hydrate messages))).loaded = messages :=
      congrArg (Input.loaded _) hreply
    rw [loadedBy_concat, hn, ht, List.nil_append]
  have ha (n : Nat) :
      spelled (writtenAt (h ++ [s.transition (.command (.hydrate messages))]) n) = [] := by
    have hw : (s.transition (.command (.hydrate messages))).written = [] := rfl
    rw [writtenAt_concat, hw, ite_self, List.append_nil]
    exact hs.blank n (hx ▸ Nat.zero_le n)
  refine ⟨hs.coherent.react _, ?_, ?_, ?_, fun n _ => ha n⟩
  · rw [hr]
    exact lasting_of_none rfl
  · rw [hl, hr, hm, List.length_map]
  · rw [hl, hr, hm]
    intro n m hmem _
    rw [List.getElem?_map] at hmem
    obtain ⟨m', hm', rfl⟩ := Option.map_eq_some_iff.1 hmem
    rw [hm']
    refine ⟨?_, nofun, nofun⟩
    rw [join_texts_of_blank (ha n), String.append_empty]
    rfl

/-- The message under way has what was written at its place. -/
theorem Chronicled.underWay (hs : Chronicled h s) :
    Recorded (loadedBy h)[s.transcript.finalized.length]?
      (writtenAt h s.transcript.finalized.length) s.underWay.message := by
  rw [Session.underWay]
  cases hp : s.transcript.inProgress with
  | some p =>
    have hm : s.transcript.messages[s.transcript.finalized.length]? = some p.message := by
      rw [messages_of_some hp, List.getElem?_concat_length]
    exact hs.recorded _ _ hm (hs.lasting.isAssistant p hp)
  | none =>
    have hl : s.transcript.messages.length = s.transcript.finalized.length := by
      rw [messages_of_none hp]
    refine recorded_begin ?_ (hs.blank _ (Nat.le_of_eq hl)) _ _
    exact List.getElem?_eq_none (Nat.le_trans hs.loaded (Nat.le_of_eq hl))

theorem messages_of_wrote {p : InProgress} {m : Message}
    (hx : s'.transcript = { s.transcript with inProgress := some { p with message := m } }) :
    s'.transcript.messages = s.transcript.finalized ++ [m] := by
  rw [hx]
  rfl

/-- What is written to the message under way is recorded at its place. -/
theorem Chronicled.wrote (hs : Chronicled h s) (hw : s.Wrote ws s') :
    ∀ n m, s'.transcript.messages[n]? = some m → m.isAssistant = true →
      Recorded (loadedBy h)[n]?
        (writtenAt h n ++ if s.transcript.finalized.length = n then ws else []) m := by
  intro n m hm ha
  cases hw with
  | nothing hws hf hc =>
    have hk : s.transcript.Keeps s'.transcript := by
      refine keeps_of_eq ?_
      rw [messages, List.map_append, hf, ← Option.toList_map, hc, Option.toList_map,
        ← List.map_append]
      rfl
    obtain ⟨m', hm', hu⟩ := hk.getElem? hm ha
    have hblank : spelled (if s.transcript.finalized.length = n then ws else []) = [] := by
      split
      · exact hws
      · rfl
    have hr := hs.recorded n m' hm' ((congrArg Message.isAssistant hu).trans ha)
    exact (hr.of_unmarked hu).gains (m.gains_blank hblank)
  | gains hg hx =>
    rw [messages_of_wrote hx] at hm
    rcases Nat.lt_trichotomy n s.transcript.finalized.length with hn | rfl | hn
    · -- The message is one that was finalized before.
      rw [if_neg (Nat.ne_of_gt hn), List.append_nil]
      rw [List.getElem?_append_left hn] at hm
      refine hs.recorded n m ?_ ha
      rw [messages, List.getElem?_append_left hn]
      exact hm
    · rw [List.getElem?_concat_length] at hm
      rw [if_pos rfl, ← Option.some.inj hm]
      exact hs.underWay.gains hg
    · rw [List.getElem?_eq_none (by rw [List.length_append, List.length_singleton]; omega)] at hm
      exact absurd hm.symm (Option.some_ne_none m)

theorem Chronicled.writes (hs : Chronicled h s) {e : Envelope} (hl : s.isLive e.generation = true)
    (he : e.event.isTerminal = false) :
    Chronicled (h ++ [s.transition (.event e)]) (s.react (.event e)).2 := by
  have hr := react_of_live hl
  have hw := wrote_apply hs.coherent.belongsTo he
  have hc := hs.coherent.carries hs.lasting (s.reaction (.event e))
  have hle := hc.grows.length_le
  have hload : loadedBy (h ++ [s.transition (.event e)]) = loadedBy h := by
    rw [loadedBy_concat]
    exact List.append_nil _
  have hwritten : (s.transition (.event e)).written = s.written e.event := if_pos hl
  refine ⟨hs.coherent.react _, hc.lasting, ?_, ?_, ?_⟩
  · rw [hload]
    exact Nat.le_trans hs.loaded hle
  · intro n m
    rw [hload, writtenAt_concat, hwritten, hr]
    exact hs.wrote hw n m
  · intro n hn
    rw [writtenAt_concat, hwritten, spelled_append, hs.blank n (Nat.le_trans hle hn),
      List.nil_append]
    split
    · next hp =>
      -- There is no message at the place, so nothing was written to it.
      cases hw with
      | nothing hws _ _ => exact hws
      | gains _ hx =>
        have hp : s.transcript.finalized.length = n := hp
        rw [hr, messages_of_wrote hx, List.length_append, List.length_singleton] at hn
        omega
    · rfl

theorem Chronicled.react (hs : Chronicled h s) (i : Input) :
    Chronicled (h ++ [s.transition i]) (s.react i).2 := by
  by_cases hw : ∃ e, i = .event e ∧ s.isLive e.generation = true ∧ e.event.isTerminal = false
  · obtain ⟨e, rfl, hl, he⟩ := hw
    exact hs.writes hl he
  · by_cases hh : ∃ messages, i = .command (.hydrate messages) ∧ s.canHydrate = true
    · obtain ⟨messages, rfl, hc⟩ := hh
      exact hs.hydrates hc
    · exact hs.moves hw hh

theorem chronicled_run (conversationId : String) (interval now : Nat) (ids : Ids)
    (inputs : List Input) :
    Chronicled ((start conversationId interval now ids).history inputs)
      ((start conversationId interval now ids).run inputs) :=
  history_induction (chronicled_start conversationId interval now ids)
    fun _ _ i _ hs => hs.react i

/-- A message that was not loaded is laid out as it was written. -/
theorem Recorded.laidOut {m : Message} (hr : Recorded none ws m) : m.LaidOut ws :=
  Message.laidOut_of_spelled (hr.content.trans String.empty_append) (hr.spelled rfl) (hr.tidy rfl)

/-- What a stream writes accumulates in its message. If a stream was opened by some input and is
    still that of the turn, the text of the message in progress is that of the message that was
    taken back for the stream, if one was, and after it the tokens of the stream, in order. The
    message stays in its place with that text when the stream ends, however it does.

    Every message of the assistant, over however many streams it was written, has the text it
    was loaded with, if it was, and after it the text that was written at its place. And if it
    was not loaded, its segments are laid out as it was written: no text is empty, no two are
    adjacent, all of them joined are the content, and one after a call has just the tokens since
    the call began and before the next one did. -/
theorem messages_accumulate (conversationId : String) (interval now : Nat) (ids : Ids)
    (inputs : List Input) :
    let s := start conversationId interval now ids
    let h := s.history inputs
    (∀ past i more, inputs = past ++ i :: more → ∀ g,
      (s.run past).turn.map (·.generation) ≠ some g →
      (s.run (past ++ [i])).turn.map (·.generation) = some g →
      (s.run inputs).turn.map (·.generation) = some g →
        let opened := s.run (past ++ [i])
        (∀ p ∈ opened.transcript.inProgress, p.resumed = true ∧ ∃ m,
          (s.run past).transcript.messages[opened.transcript.finalized.length]? = some m ∧
            p.message.content = m.content) ∧
        (s.run inputs).textInProgress =
          opened.textInProgress ++ String.join (tokensOf h g) ∧
        ∀ last, (s.run (inputs ++ [last])).turn.map (·.generation) ≠ some g →
          ∀ p ∈ (s.run inputs).transcript.inProgress, ∃ m,
            (s.run (inputs ++ [last])).transcript.messages[
              (s.run inputs).transcript.finalized.length]? = some m ∧
            m.content = opened.textInProgress ++
              String.join (tokensOf (s.history (inputs ++ [last])) g)) ∧
    ∀ n m, (s.run inputs).transcript.messages[n]? = some m → m.isAssistant = true →
      m.content = ((loadedBy h)[n]?.map (·.content)).getD "" ++
        String.join (texts (writtenAt h n)) ∧
      ((loadedBy h).length ≤ n → m.LaidOut (writtenAt h n)) := by
  intro s h
  refine ⟨?_, fun n m hm ha => ?_⟩
  · rintro past i more rfl g hn hg hg' opened
    obtain ⟨hc, hl⟩ := lasting_run conversationId interval now ids past
    obtain ⟨hc', hl'⟩ := lasting_run conversationId interval now ids (past ++ i :: more)
    have htext : (s.run (past ++ i :: more)).textInProgress =
        opened.textInProgress ++ String.join (tokensOf h g) :=
      hc.textInProgress_of_opening hn hg hg'
    refine ⟨fun p hp => ?_, htext, fun last hlast p hp => ?_⟩
    · have hopened : opened = ((s.run past).react i).2 := run_concat s past i
      rw [run_concat] at hg
      rw [hopened] at hp ⊢
      obtain ⟨hres, m, hm, hu⟩ := hc.resumed_of_opening hl hn hg p hp
      exact ⟨hres, m, hm, (congrArg (·.content) hu).symm⟩
    · rw [run_concat] at hlast ⊢
      obtain ⟨m, hm, hu⟩ := hc'.kept_of_ending hl' hg' hlast p hp
      refine ⟨m, hm, ?_⟩
      have hcontent : m.content = (s.run (past ++ i :: more)).textInProgress := by
        rw [show m.content = p.message.content from congrArg (·.content) hu, textInProgress,
          current?, Option.mem_def.1 hp]
        rfl
      rw [hcontent, htext, hc'.tokensOf_ending hg' hlast]
  · have hs : Chronicled h (s.run inputs) := chronicled_run conversationId interval now ids inputs
    have hr := hs.recorded n m hm ha
    refine ⟨hr.content, fun hl => ?_⟩
    rw [List.getElem?_eq_none hl] at hr
    exact hr.laidOut

end Session

end Dialogue
