import Dialogue.Proofs.Session.History

/-!
# The log of the streams

What becomes of the streams of a session, in order: each is opened, and then given
up by the session or ended by its own terminal event (`StreamMark`). A stream is
*live* in between (`live`).

In a log that *alternates* (`Alternates`), a stream is opened only when none is
live, always with a generation larger than those before, and only the live stream
is given up or ends. So

* generations increase (`Alternates.pairwise_opened`);
* at most one stream is live, the one opened last (`Alternates.live_eq`,
  `Alternates.getLast?_opened`);
* no stream is live when another is opened (`Alternates.live_of_opened`);
* no stream both ends and is given up (`Alternates.not_cancelled_of_ended`).
-/

namespace Dialogue

/-- What becomes of the stream of a generation. -/
inductive StreamMark where
  | opened (generation : Nat)
  /-- The session gives it up. -/
  | cancelled (generation : Nat)
  /-- Its terminal event is applied. -/
  | ended (generation : Nat)
  deriving DecidableEq, Repr

/-- What an effect does to a stream. -/
def Effect.mark? : Effect → Option StreamMark
  | .opened generation _ => some (.opened generation)
  | .cancelled generation => some (.cancelled generation)
  | .told _ | .stopRequested .. => none

/-- The stream that an input ends, if it is the terminal event of the active turn. -/
def Transition.ended (t : Transition) : List StreamMark :=
  match t.input with
  | .event e =>
    if t.before.isLive e.generation && e.event.isTerminal then [.ended e.generation] else []
  | _ => []

/-- What becomes of streams in one step: the event that was applied comes first, then
    what the session does about it. -/
def Transition.marks (t : Transition) : List StreamMark :=
  t.ended ++ t.effects.filterMap Effect.mark?

/-- What becomes of the streams of a session, given its inputs. -/
def Session.streamLog (s : Session) (inputs : List Input) : List StreamMark :=
  (s.history inputs).flatMap Transition.marks

namespace StreamLog

variable {log : List StreamMark} {current : Option Nat} {g : Nat}

/-- The generations of the streams that were opened. -/
def opened (log : List StreamMark) : List Nat :=
  log.filterMap fun | .opened g => some g | _ => none

/-- The generations of the streams that the session gave up. -/
def cancelled (log : List StreamMark) : List Nat :=
  log.filterMap fun | .cancelled g => some g | _ => none

/-- The generations of the streams whose terminal event was applied. -/
def ended (log : List StreamMark) : List Nat :=
  log.filterMap fun | .ended g => some g | _ => none

/-- The generations of the streams that the session gave up or whose terminal event was
    applied. -/
def closed (log : List StreamMark) : List Nat :=
  log.filterMap fun | .cancelled g | .ended g => some g | .opened _ => none

/-- The streams that were opened, and neither given up nor ended since. -/
def live (log : List StreamMark) : List Nat :=
  (opened log).filter fun g => g ∉ cancelled log ∧ g ∉ ended log

/-! ## One mark more -/

theorem opened_append (log log' : List StreamMark) :
    opened (log ++ log') = opened log ++ opened log' :=
  List.filterMap_append

theorem cancelled_append (log log' : List StreamMark) :
    cancelled (log ++ log') = cancelled log ++ cancelled log' :=
  List.filterMap_append

theorem ended_append (log log' : List StreamMark) :
    ended (log ++ log') = ended log ++ ended log' :=
  List.filterMap_append

theorem closed_append (log log' : List StreamMark) :
    closed (log ++ log') = closed log ++ closed log' :=
  List.filterMap_append

theorem mem_closed : g ∈ closed log ↔ g ∈ cancelled log ∨ g ∈ ended log := by
  induction log with
  | nil => exact ⟨.inl, fun h => h.elim id id⟩
  | cons mark log ih =>
    cases mark with
    | opened g' => exact ih
    | cancelled g' => exact List.mem_cons.trans ((or_congr_right ih).trans (or_assoc.symm.trans
        (or_congr_left List.mem_cons.symm)))
    | ended g' => exact List.mem_cons.trans ((or_congr_right ih).trans (or_left_comm.trans
        (or_congr_right List.mem_cons.symm)))

theorem opened_concat {mark : StreamMark} (h : opened [mark] = []) :
    opened (log ++ [mark]) = opened log := by
  rw [opened_append, h, List.append_nil]

theorem cancelled_concat {mark : StreamMark} (h : cancelled [mark] = []) :
    cancelled (log ++ [mark]) = cancelled log := by
  rw [cancelled_append, h, List.append_nil]

theorem ended_concat {mark : StreamMark} (h : ended [mark] = []) :
    ended (log ++ [mark]) = ended log := by
  rw [ended_append, h, List.append_nil]

/-- A stream that is opened is live, and no other becomes so. -/
theorem live_append_opened (hc : g ∉ cancelled log) (he : g ∉ ended log) :
    live (log ++ [.opened g]) = live log ++ [g] := by
  rw [live, cancelled_concat rfl, ended_concat rfl, opened_append, List.filter_append, live]
  congr 1
  exact List.filter_eq_self.2 fun g' hg' => by
    rw [List.mem_singleton.1 hg']
    exact decide_eq_true ⟨hc, he⟩

/-- A stream that is given up or ends is live no more. -/
theorem live_append_closed {mark : StreamMark} (hm : mark = .cancelled g ∨ mark = .ended g)
    (hl : live log = [g]) : live (log ++ [mark]) = [] := by
  have ho : opened [mark] = [] := by rcases hm with rfl | rfl <;> rfl
  rw [live, opened_concat ho, List.filter_eq_nil_iff]
  intro g' hg' hlive
  obtain ⟨hc, he⟩ := of_decide_eq_true hlive
  rw [cancelled_append, List.mem_append, not_or] at hc
  rw [ended_append, List.mem_append, not_or] at he
  -- A stream that is still live was so before, hence is the one closed.
  have hg : g' ∈ live log := List.mem_filter.2 ⟨hg', decide_eq_true ⟨hc.1, he.1⟩⟩
  rw [hl, List.mem_singleton] at hg
  rcases hm with rfl | rfl
  · exact hc.2 (hg ▸ List.mem_singleton_self g)
  · exact he.2 (hg ▸ List.mem_singleton_self g)

/-! ## Alternation -/

/-- Streams follow each other: `current` is the one that is open after the log. -/
inductive Alternates : List StreamMark → Option Nat → Prop
  | start : Alternates [] none
  | opened {log : List StreamMark} {g : Nat} : Alternates log none →
      (∀ g' ∈ opened log, g' < g) → Alternates (log ++ [.opened g]) (some g)
  | cancelled {log : List StreamMark} {g : Nat} : Alternates log (some g) →
      Alternates (log ++ [.cancelled g]) none
  | ended {log : List StreamMark} {g : Nat} : Alternates log (some g) →
      Alternates (log ++ [.ended g]) none

namespace Alternates

/-- What follows is known about the log and its end together: which streams can have
    been closed, and which one is live. -/
theorem closed_and_live (h : Alternates log current) :
    (∀ g, g ∈ StreamLog.cancelled log ∨ g ∈ StreamLog.ended log → g ∈ StreamLog.opened log) ∧
      live log = current.toList := by
  induction h with
  | start => exact ⟨fun g hg => absurd (hg.elim id id) List.not_mem_nil, rfl⟩
  | @opened log g _ hlt ih =>
    obtain ⟨hclosed, hlive⟩ := ih
    -- The generation is new, so nothing was ever done to it.
    have hnew : g ∉ StreamLog.opened log := fun hg => Nat.lt_irrefl g (hlt g hg)
    refine ⟨fun g' hg' => ?_, ?_⟩
    · rw [cancelled_concat rfl, ended_concat rfl] at hg'
      rw [opened_append]
      exact List.mem_append_left _ (hclosed g' hg')
    · rw [live_append_opened (fun hc => hnew (hclosed g (.inl hc)))
        (fun he => hnew (hclosed g (.inr he))), hlive]
      rfl
  | @cancelled log g _ ih =>
    obtain ⟨hclosed, hlive⟩ := ih
    have hg : g ∈ StreamLog.opened log :=
      (List.mem_filter.1 (hlive ▸ List.mem_singleton_self g : g ∈ live log)).1
    refine ⟨fun g' hg' => ?_, live_append_closed (.inl rfl) hlive⟩
    rw [cancelled_append, List.mem_append, ended_concat rfl] at hg'
    rw [opened_concat rfl]
    rcases hg' with (hc | hc) | he
    · exact hclosed g' (.inl hc)
    · exact List.mem_singleton.1 hc ▸ hg
    · exact hclosed g' (.inr he)
  | @ended log g _ ih =>
    obtain ⟨hclosed, hlive⟩ := ih
    have hg : g ∈ StreamLog.opened log :=
      (List.mem_filter.1 (hlive ▸ List.mem_singleton_self g : g ∈ live log)).1
    refine ⟨fun g' hg' => ?_, live_append_closed (.inr rfl) hlive⟩
    rw [ended_append, List.mem_append, cancelled_concat rfl] at hg'
    rw [opened_concat rfl]
    rcases hg' with hc | he | he
    · exact hclosed g' (.inl hc)
    · exact hclosed g' (.inr he)
    · exact List.mem_singleton.1 he ▸ hg

/-- The live stream is the one that is open. -/
theorem live_eq (h : Alternates log current) : live log = current.toList :=
  h.closed_and_live.2

/-- An open stream is live, so it was neither given up nor did it end. -/
theorem not_closed (h : Alternates log (some g)) :
    g ∉ StreamLog.cancelled log ∧ g ∉ StreamLog.ended log := by
  have hg : g ∈ live log := h.live_eq ▸ List.mem_singleton_self g
  exact of_decide_eq_true (List.mem_filter.1 hg).2

theorem notMem_closed (h : Alternates log (some g)) : g ∉ StreamLog.closed log :=
  fun hg => (mem_closed.1 hg).elim h.not_closed.1 h.not_closed.2

/-- Streams are opened with increasing generations. -/
theorem pairwise_opened (h : Alternates log current) :
    (StreamLog.opened log).Pairwise (· < ·) := by
  induction h with
  | start => exact List.Pairwise.nil
  | opened _ hlt ih =>
    rw [opened_append, List.pairwise_append]
    refine ⟨ih, List.pairwise_singleton _ _, fun g' hg' g hg => ?_⟩
    exact List.mem_singleton.1 hg ▸ hlt g' hg'
  | cancelled _ ih | ended _ ih => rwa [opened_concat rfl]

/-- The open stream is the one opened last. -/
theorem getLast?_opened (h : Alternates log (some g)) :
    (StreamLog.opened log).getLast? = some g := by
  cases h with
  | opened _ _ =>
    rw [opened_append]
    exact List.getLast?_concat

/-- A mark in the middle of a log that is one mark longer is the last one, or stands
    in the log before. -/
theorem last_or_within {mark mark' : StreamMark} {before after : List StreamMark}
    (h : log ++ [mark] = before ++ mark' :: after) :
    (log = before ∧ mark = mark') ∨ ∃ after', log = before ++ mark' :: after' := by
  rcases after.eq_nil_or_concat with rfl | ⟨after', last, rfl⟩
  · obtain ⟨hl, hm⟩ := List.append_inj' h rfl
    exact .inl ⟨hl, List.singleton_inj.1 hm⟩
  · rw [List.concat_eq_append, ← List.cons_append, ← List.append_assoc] at h
    exact .inr ⟨after', (List.append_inj' h rfl).1⟩

/-- Where a stream is opened, none is open before. -/
theorem before_opened {before after : List StreamMark} (h : Alternates log current)
    (hl : log = before ++ .opened g :: after) : Alternates before none := by
  induction h generalizing after with
  | start => exact absurd hl.symm (List.append_ne_nil_of_right_ne_nil _ (List.cons_ne_nil _ _))
  | opened h _ ih =>
    rcases last_or_within hl with ⟨rfl, _⟩ | ⟨_, hl⟩
    · exact h
    · exact ih hl
  | cancelled _ ih | ended _ ih =>
    rcases last_or_within hl with ⟨_, hm⟩ | ⟨_, hl⟩
    · exact nomatch hm
    · exact ih hl

/-- No stream is live when another is opened. -/
theorem live_of_opened {before after : List StreamMark} (h : Alternates log current)
    (hl : log = before ++ .opened g :: after) : live before = [] :=
  (h.before_opened hl).live_eq

/-- No stream both ends and is given up. -/
theorem not_cancelled_of_ended (h : Alternates log current) :
    ∀ g ∈ StreamLog.ended log, g ∉ StreamLog.cancelled log := by
  induction h with
  | start => exact fun _ hg => absurd hg List.not_mem_nil
  | opened _ _ ih => rwa [ended_concat rfl, cancelled_concat rfl]
  | cancelled h ih =>
    intro g' he hc
    rw [ended_concat rfl] at he
    rw [cancelled_append] at hc
    rcases List.mem_append.1 hc with hc | hc
    · exact ih g' he hc
    · exact h.not_closed.2 (List.mem_singleton.1 hc ▸ he)
  | ended h ih =>
    intro g' he hc
    rw [cancelled_concat rfl] at hc
    rw [ended_append] at he
    rcases List.mem_append.1 he with he | he
    · exact ih g' he hc
    · exact h.not_closed.1 (List.mem_singleton.1 he ▸ hc)

end Alternates

end StreamLog

end Dialogue
