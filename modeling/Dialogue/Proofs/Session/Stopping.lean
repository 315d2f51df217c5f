import Dialogue.Proofs.Session.Asking
import Dialogue.Proofs.Session.Confining
import Dialogue.Proofs.Session.Proceeding
import Dialogue.Proofs.Session.Streams

/-!
# Which runs the server is asked to stop

The server names a run when it accepts a turn, and may do so again. When the session gives up the
stream of the turn, it asks the server to stop the run that was named last, if one was named.

* `acceptedRun?`: the run that was named last among the events of a stream, and so the run of the
  turn (`Stopped.run`);
* `Effect.stopped`: effects with every request to stop a run put right after the stream that is
  given up, whatever they had asked for. What a session does is that already (`Stopped.react`);
* `Alternates.cancelled_eq`: the streams that are given up are those that were opened, did not
  end, and are not running;
* `stops_name_interrupted_runs`: so it is after any inputs.
-/

namespace Dialogue

/-- The run that events say the server accepted, the last one if there are several. -/
def acceptedRun? (es : List TurnEvent) : Option String :=
  (es.filterMap TurnEvent.runId?).getLast?

theorem acceptedRun?_concat (es : List TurnEvent) (e : TurnEvent) :
    acceptedRun? (es ++ [e]) = (e.runId? <|> acceptedRun? es) := by
  rw [acceptedRun?, List.filterMap_append, List.getLast?_append]
  cases h : e.runId? with
  | none => rw [List.filterMap_cons_none h]; rfl
  | some runId => rw [List.filterMap_cons_some h]; rfl

theorem TurnEvent.runId?_of_isTerminal {e : TurnEvent} (h : e.isTerminal = true) :
    e.runId? = none := by
  cases e with
  | completed time | error message => rfl
  | _ => exact Bool.noConfusion h

namespace StreamLog

variable {log : List StreamMark} {current : Option Nat}

theorem filter_current (g : Nat) (log : List StreamMark) :
    [g].filter (fun g' => g' ∉ StreamLog.ended log ∧ some g ≠ some g') = [] :=
  List.filter_eq_nil_iff.2 fun g' hg' hd =>
    (of_decide_eq_true hd).2 (by rw [List.mem_singleton.1 hg'])

/-- The open stream was opened last. So if the other streams have a property exactly if they did
    not end, those that were opened and have it are these, and then the open one if it has it. -/
theorem Alternates.filter_closed {g : Nat} (h : Alternates log (some g)) {P : Nat → Prop}
    [DecidablePred P] (hp : ∀ g', g' ≠ g → (P g' ↔ g' ∉ StreamLog.ended log)) :
    (StreamLog.opened log).filter (fun g' => P g') =
      (StreamLog.opened log).filter (fun g' => g' ∉ StreamLog.ended log ∧ some g ≠ some g') ++
        if P g then [g] else [] := by
  -- No other stream has the generation of the open one.
  obtain ⟨before, ho⟩ := List.getLast?_eq_some_iff.1 h.getLast?_opened
  have hlt := (List.pairwise_append.1 (ho ▸ h.pairwise_opened)).2.2
  have hne : ∀ g' ∈ before, g' ≠ g := fun g' hg' =>
    Nat.ne_of_lt (hlt g' hg' g (List.mem_singleton_self g))
  have hb : before.filter (fun g' => P g') =
      before.filter (fun g' => g' ∉ StreamLog.ended log ∧ some g ≠ some g') :=
    List.filter_congr fun g' hg' => decide_eq_decide.2 <|
      (hp g' (hne g' hg')).trans (and_iff_left fun he => hne g' hg' (Option.some.inj he).symm).symm
  rw [ho, List.filter_append, List.filter_append, hb, filter_current, List.append_nil]
  refine congrArg _ ?_
  by_cases hP : P g
  · rw [if_pos hP, List.filter_singleton, decide_eq_true hP]
    rfl
  · rw [if_neg hP, List.filter_singleton, decide_eq_false hP]
    rfl

/-- The streams that are given up are those that were opened, did not end, and are not
    running. -/
theorem Alternates.cancelled_eq (h : Alternates log current) :
    StreamLog.cancelled log =
      (StreamLog.opened log).filter fun g => g ∉ StreamLog.ended log ∧ current ≠ some g := by
  induction h with
  | start => rfl
  | @opened log g _ hlt ih =>
    have hg := (filter_current g log).symm
    rw [cancelled_concat rfl, ended_concat rfl, opened_append, List.filter_append, ih]
    refine (List.append_nil _).symm.trans (congrArg₂ _ (List.filter_congr fun g' hg' => ?_) hg)
    -- No stream runs before, and the new one is none of those opened before.
    refine decide_eq_decide.2 (and_congr_right fun _ => ⟨fun _ he => ?_, fun _ => nofun⟩)
    exact Nat.ne_of_lt (hlt g' hg') (Option.some.inj he).symm
  | @cancelled log g h ih =>
    rw [cancelled_append, ended_concat rfl, opened_concat rfl, ih]
    refine (h.filter_closed (P := fun g' => g' ∉ StreamLog.ended log ∧ none ≠ some g')
      fun g' _ => and_iff_left nofun).trans ?_ |>.symm
    rw [if_pos ⟨h.not_closed.2, nofun⟩]
    rfl
  | @ended log g h ih =>
    rw [cancelled_concat rfl, opened_concat rfl, ih]
    refine (h.filter_closed (P := fun g' => g' ∉ StreamLog.ended (log ++ [.ended g]) ∧
      none ≠ some g') fun g' hg' => ?_).trans ?_ |>.symm
    · rw [ended_append, List.mem_append, not_or]
      exact (and_iff_left nofun).trans (and_iff_left (mt List.mem_singleton.1 hg'))
    · rw [if_neg fun hn => hn.1 (by rw [ended_append]; exact List.mem_append_right _ (.head _)),
        List.append_nil]

end StreamLog

namespace Effect

/-- Whether an effect asks the server to stop a run. -/
def isStop : Effect → Bool
  | .stopRequested .. => true
  | _ => false

/-- What the server is asked after an effect: to stop the run of a stream that is given up. -/
def stopsAfter (conversationId : String) (run? : Nat → Option String) : Effect → List Effect
  | .cancelled generation => (run? generation).toList.map (.stopRequested conversationId)
  | _ => []

/-- Effects with the requests to stop runs put where they belong. -/
def stopped (conversationId : String) (run? : Nat → Option String) (es : List Effect) :
    List Effect :=
  (es.filter (!·.isStop)).flatMap fun e => e :: e.stopsAfter conversationId run?

variable {conversationId : String} {run? run?' : Nat → Option String}

theorem stopped_append (as bs : List Effect) :
    stopped conversationId run? (as ++ bs) =
      stopped conversationId run? as ++ stopped conversationId run? bs := by
  rw [stopped, List.filter_append, List.flatMap_append]
  rfl

theorem stopped_tellings (us : List Update) :
    stopped conversationId run? (tellings us) = tellings us := by
  induction us with
  | nil => rfl
  | cons u us ih => exact congrArg (.told u :: ·) ih

theorem stopped_cons_opened (generation : Nat) (request : Request) (es : List Effect) :
    stopped conversationId run? (.opened generation request :: es) =
      .opened generation request :: stopped conversationId run? es := rfl

theorem stopped_cons_cancelled (generation : Nat) (es : List Effect) :
    stopped conversationId run? (.cancelled generation :: es) =
      .cancelled generation :: ((run? generation).toList.map (.stopRequested conversationId) ++
        stopped conversationId run? es) := rfl

/-- It matters only which runs the streams have that are given up. -/
theorem stopped_congr {es : List Effect} (h : ∀ g ∈ cancellations es, run?' g = run? g) :
    stopped conversationId run?' es = stopped conversationId run? es := by
  induction es with
  | nil => rfl
  | cons e es ih =>
    cases e with
    | told u => exact congrArg (.told u :: ·) (ih h)
    | opened generation request => exact congrArg (.opened generation request :: ·) (ih h)
    | stopRequested id runId => exact ih h
    | cancelled generation =>
      obtain ⟨hg, h⟩ := List.forall_mem_cons.1 h
      rw [stopped_cons_cancelled, stopped_cons_cancelled, hg, ih h]

/-- With the requests where they belong, the runs to be stopped are those of the streams that are
    given up. -/
theorem stops_stopped (es : List Effect) :
    stops (stopped conversationId run? es) =
      (cancellations es).filterMap fun g => (run? g).map (conversationId, ·) := by
  induction es with
  | nil => rfl
  | cons e es ih =>
    cases e with
    | told u | opened generation request | stopRequested id runId => exact ih
    | cancelled generation =>
      have hc : cancellations (.cancelled generation :: es) = generation :: cancellations es := rfl
      rw [stopped_cons_cancelled, hc]
      cases hr : run? generation with
      | none =>
        rw [List.filterMap_cons_none (by rw [hr]; rfl)]
        exact ih
      | some runId =>
        rw [List.filterMap_cons_some (by rw [hr]; rfl)]
        exact congrArg ((conversationId, runId) :: ·) ih

end Effect

namespace Session

open Effect StreamLog

variable {s s' e : Session} {h : List Transition} {i : Input}

/-- What is known of a session that comes with a history: its turn has the run that the events of
    its stream named last, and the server was asked to stop the run of every stream right after it
    was given up, and nothing else. -/
structure Stopped (h : List Transition) (s : Session) : Prop where
  logged : Logged h s
  fresh : ∀ g, s.generation < g → eventsOf h g = []
  run : ∀ turn ∈ s.turn, turn.runId = acceptedRun? (eventsOf h turn.generation)
  stopped : stopped s.conversationId (fun g => acceptedRun? (eventsOf h g)) s.outbox = s.outbox

theorem stopped_start (conversationId : String) (interval now : Nat) (ids : Ids) :
    Stopped [] (start conversationId interval now ids) where
  logged := logged_start conversationId interval now ids
  fresh _ _ := rfl
  run _ ht := absurd ht (Option.not_mem_none _)
  stopped := rfl

/-- A stream that was given up is not that of the turn. -/
theorem Logged.not_turn (hs : Logged h s) {g : Nat} (hg : g ∈ cancellations s.outbox) :
    ¬(g = s.generation ∧ ∃ turn, s.turn = some turn) := by
  rintro ⟨rfl, turn, ht⟩
  have ha := hs.accounted.of_turn ht
  rw [hs.coherent.generation turn ht] at ha
  exact ha.not_closed.1 (hs.cancelled_eq ▸ hg)

/-- What was asked before stays where it belongs, since no event is taken from a stream that was
    given up. -/
theorem Stopped.stopped_concat (hs : Stopped h s) (i : Input) :
    Effect.stopped s.conversationId
      (fun g => acceptedRun? (eventsOf (h ++ [s.transition i]) g)) s.outbox = s.outbox := by
  refine (stopped_congr fun g hg => ?_).trans hs.stopped
  rw [eventsOf_concat, eventOf?_of_not_turn (hs.logged.not_turn hg), Option.toList_none,
    List.append_nil]

/-- An input that is no event that writes names no run. -/
theorem acceptedRun?_of_not_writes
    (hw : ¬∃ e, i = .event e ∧ s.isLive e.generation = true ∧ e.event.isTerminal = false)
    (g : Nat) :
    acceptedRun? (eventsOf (h ++ [s.transition i]) g) = acceptedRun? (eventsOf h g) := by
  rw [eventsOf_concat]
  cases he : (s.transition i).eventOf? g with
  | none => rw [Option.toList_none, List.append_nil]
  | some e =>
    rw [Option.toList_some, acceptedRun?_concat,
      TurnEvent.runId?_of_isTerminal (isTerminal_of_eventOf? hw e he)]
    rfl

theorem stopped_interruptActs {run? : Nat → Option String}
    (hr : ∀ turn ∈ s.turn, turn.runId = run? turn.generation) :
    Effect.stopped s.conversationId run? s.interruptActs = s.interruptActs := by
  unfold interruptActs
  cases ht : s.turn with
  | none => rfl
  | some turn =>
    simp only [stopped_cons_cancelled, hr turn ht]
    cases run? turn.generation <;> rfl

/-- A session that lets go of its stream asks for what it has to. -/
theorem LetsGo.stopped {run? : Nat → Option String} (hl : s.LetsGo e)
    (hr : ∀ turn ∈ s.turn, turn.runId = run? turn.generation)
    (hs : Effect.stopped s.conversationId run? s.outbox = s.outbox) :
    Effect.stopped s.conversationId run? e.outbox = e.outbox := by
  obtain ⟨us, acts, vs, ho, ha⟩ := hl.done
  have hacts : Effect.stopped s.conversationId run? acts = acts := by
    rcases ha with rfl | rfl
    · rfl
    · exact stopped_interruptActs hr
  rw [ho, stopped_append, hs, stopped_append, stopped_tellings, stopped_append, hacts,
    stopped_tellings]

/-- So does one that proceeds, since opening a stream asks for nothing to be stopped. -/
theorem Proceeds.stopped {run? : Nat → Option String} (hp : s.Proceeds s')
    (hr : ∀ turn ∈ s.turn, turn.runId = run? turn.generation)
    (hs : Effect.stopped s.conversationId run? s.outbox = s.outbox) :
    Effect.stopped s.conversationId run? s'.outbox = s'.outbox := by
  cases hp with
  | stays us _ _ _ ho => rw [ho, stopped_append, hs, stopped_tellings]
  | ends _ hl => exact hl.stopped hr hs
  | @opens e kind request resumed _ hl =>
    have ho := congrArg Session.outbox (e.openStream_eq kind request resumed)
    rw [ho, stopped_append, hl.stopped hr hs, stopped_append, stopped_tellings,
      stopped_cons_opened, stopped_tellings]

/-- A session that proceeds has its turn from before, or a new one whose run is not named. -/
theorem Proceeds.turn (hp : s.Proceeds s') {turn : ActiveTurn} (ht : s'.turn = some turn) :
    s.turn = some turn ∨ (s.generation < turn.generation ∧ turn.runId = none) := by
  cases hp with
  | stays _ hs _ _ _ => exact .inl (hs ▸ ht)
  | ends hs _ => exact nomatch hs.symm.trans ht
  | @opens e kind request resumed _ hl =>
    rw [openStream_eq] at ht
    obtain rfl := Option.some.inj ht
    exact .inr ⟨Nat.lt_succ_of_le hl.generation_le, rfl⟩

theorem Stopped.react (hs : Stopped h s) (i : Input) :
    Stopped (h ++ [s.transition i]) (s.react i).2 := by
  have hc := hs.logged.coherent
  have hid : (s.react i).2.conversationId = s.conversationId :=
    (hc.course (s.reaction i)).conversationId
  have hold := hs.stopped_concat i
  have hfresh {g : Nat} (hg : s.generation < g) : eventsOf (h ++ [s.transition i]) g = [] :=
    eventsOf_concat_ahead i (hs.fresh g hg) hg
  refine ⟨hs.logged.react i, fun g hg => hfresh (Nat.lt_of_le_of_lt (s.generation_le_react i) hg),
    ?_, ?_⟩
  · rcases hc.proceeds_or_writes i with ⟨hp, hw⟩ | ⟨e, rfl, hl, he⟩
    · intro turn ht
      rcases hp.turn ht with ht | ⟨hg, hr⟩
      · rw [acceptedRun?_of_not_writes hw, hs.run turn ht]
      · rw [hfresh hg, hr]
        rfl
    · intro turn' ht'
      rw [react_of_live hl, turn_apply s he] at ht'
      obtain ⟨turn, ht, rfl⟩ := Option.map_eq_some_iff.1 ht'
      rw [hc.eventsOf_concat_live ht hl, acceptedRun?_concat, hs.run turn ht]
  · rw [hid]
    rcases hc.proceeds_or_writes i with ⟨hp, hw⟩ | ⟨e, rfl, hl, he⟩
    · exact hp.stopped
        (fun turn ht => (hs.run turn ht).trans (acceptedRun?_of_not_writes hw _).symm) hold
    · obtain ⟨us, ho⟩ := (continues_apply s he).told
      rw [react_of_live hl, ho, stopped_append, stopped_tellings, hold]

theorem stopped_run (conversationId : String) (interval now : Nat) (ids : Ids)
    (inputs : List Input) :
    Stopped ((start conversationId interval now ids).history inputs)
      ((start conversationId interval now ids).run inputs) :=
  history_induction (stopped_start conversationId interval now ids) fun _ _ i _ hs => hs.react i

theorem Coherent.conversationId_run (hc : s.Coherent) (inputs : List Input) :
    (s.run inputs).conversationId = s.conversationId :=
  (run_induction (P := fun s' => s'.Coherent ∧ s'.conversationId = s.conversationId) ⟨hc, rfl⟩
    fun s' i _ h => ⟨h.1.react i, (h.1.course (s'.reaction i)).conversationId.trans h.2⟩).2

/-- The server is asked to stop exactly the runs that were interrupted, whatever the inputs are.

    All that a session does to the outside, in order, is what it does apart from asking to stop
    runs, with one request put right after each stream that is given up and for which a run was
    named. The request has the conversation of the session, and the run that was named last among
    the events that were taken from that very stream.

    The streams that are given up are those that were opened, whose terminal event was not applied,
    and which are not running. They are opened with increasing generations, so that each is given
    up once. -/
theorem stops_name_interrupted_runs (conversationId : String) (interval now : Nat) (ids : Ids)
    (inputs : List Input) :
    let fresh := start conversationId interval now ids
    let s := fresh.run inputs
    let log := fresh.streamLog inputs
    let run? g := acceptedRun? (eventsOf (fresh.history inputs) g)
    (s.outbox = (s.outbox.filter (!·.isStop)).flatMap fun e =>
      e :: e.stopsAfter conversationId run?) ∧
    stops s.outbox =
      (cancellations s.outbox).filterMap (fun g => (run? g).map (conversationId, ·)) ∧
    cancellations s.outbox =
      (opened log).filter
        (fun g => g ∉ StreamLog.ended log ∧ s.turn.map (·.generation) ≠ some g) ∧
    opened log = (openings s.outbox).map (·.1) ∧
    (opened log).Pairwise (· < ·) := by
  intro fresh s log run?
  have hc : fresh.Coherent := coherent_start conversationId interval now ids
  have hs : Stopped (fresh.history inputs) s :=
    stopped_run conversationId interval now ids inputs
  have hid : s.conversationId = conversationId := hc.conversationId_run inputs
  have ho : stopped conversationId run? s.outbox = s.outbox := hid ▸ hs.stopped
  have ha : Alternates log (s.turn.map (·.generation)) := hs.logged.accounted.alternates
  refine ⟨ho.symm, ?_, hs.logged.cancelled_eq.symm.trans ha.cancelled_eq, hs.logged.opened_eq,
    ha.pairwise_opened⟩
  rw [← ho, stops_stopped, ho]

end Session

end Dialogue
