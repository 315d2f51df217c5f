import Dialogue.Proofs.Session.Streams
import Dialogue.Proofs.Session.Watching
import Dialogue.Proofs.Usage

/-!
# The ledger of a session

What a session should account for is read off its history (`Ledger`): the accounts of the
messages that were loaded, and every report that counted, with the generation of its
stream. A stream that ends while no message is in progress leaves nothing that its reports
could be noted on, and these are forgotten (`Transition.unnoted`).

The ledger says what is counted (`Ledger.counted`). For a stream it splits this in what the
stream reported so far and in everything else (`Ledger.sum_counted`).
-/

namespace Dialogue

open StreamLog

/-- What a transition reports, with the generation of the stream: the report of an event
    about the main model call, if that event counts. -/
def Transition.report? (t : Transition) : Option (Nat × Usage) :=
  match t.input with
  | .event ⟨generation, .usage report .main⟩ =>
    if t.before.isLive generation then some (generation, report) else none
  | _ => none

/-- The streams that a transition ends or gives up while no message is in progress. -/
def Transition.unnoted (t : Transition) : List Nat :=
  if t.before.transcript.inProgress.isNone then closed t.marks else []

/-- What there is to account for. -/
structure Ledger where
  /-- The accounts of the messages that were loaded. -/
  loaded : List Usage := []
  /-- The reports that counted, each with the generation of its stream. -/
  reports : List (Nat × Usage) := []
  /-- The streams whose reports count no more. -/
  forgotten : List Nat := []
  deriving DecidableEq, Repr

namespace Ledger

variable (l : Ledger) (k : Counter)

/-- The ledger of a history. -/
def ofHistory (h : List Transition) : Ledger where
  loaded := accountsOf (h.flatMap Transition.loaded)
  reports := h.filterMap Transition.report?
  forgotten := h.flatMap Transition.unnoted

/-- The reports that still count. -/
def kept (l : Ledger) : List (Nat × Usage) :=
  l.reports.filter (·.1 ∉ l.forgotten)

/-- Everything that counts. -/
def counted (l : Ledger) : List Usage :=
  l.loaded ++ l.kept.map (·.2)

/-- What counts of a stream, if there is one. -/
def running (l : Ledger) (stream : Option Nat) : List Usage :=
  (l.kept.filter (some ·.1 = stream)).map (·.2)

/-- What counts of everything else. -/
def settled (l : Ledger) (stream : Option Nat) : List Usage :=
  l.loaded ++ (l.kept.filter (some ·.1 ≠ stream)).map (·.2)

theorem running_none : l.running none = [] := by
  rw [running, List.map_eq_nil_iff, List.filter_eq_nil_iff]
  exact fun r _ h => Option.some_ne_none r.1 (of_decide_eq_true h)

theorem settled_none : l.settled none = l.counted := by
  rw [settled, counted, List.filter_eq_self.2]
  exact fun r _ => decide_eq_true (Option.some_ne_none r.1)

/-- What counts is what counts of a stream and everything else. -/
theorem sum_counted (stream : Option Nat) :
    k.sum l.counted = k.sum (l.settled stream) + k.sum (l.running stream) := by
  rw [counted, settled, running, k.sum_append, k.sum_append,
    k.sum_filter_not _ (fun r : Nat × Usage => some r.1 = stream), Nat.add_assoc]

/-! ## Entries -/

/-- More messages are loaded. -/
def load (l : Ledger) (accounts : List Usage) : Ledger :=
  { l with loaded := l.loaded ++ accounts }

/-- More is reported. -/
def report (l : Ledger) (reports : List (Nat × Usage)) : Ledger :=
  { l with reports := l.reports ++ reports }

/-- The reports of more streams count no more. -/
def forget (l : Ledger) (generations : List Nat) : Ledger :=
  { l with forgotten := l.forgotten ++ generations }

/-- The ledger with what a transition enters. -/
def enter (l : Ledger) (t : Transition) : Ledger :=
  ((l.load (accountsOf t.loaded)).report t.report?.toList).forget t.unnoted

theorem ofHistory_concat (h : List Transition) (t : Transition) :
    ofHistory (h ++ [t]) = (ofHistory h).enter t := by
  rw [ofHistory, List.flatMap_append, List.flatMap_singleton, accountsOf_append,
    List.filterMap_append, List.flatMap_append, List.flatMap_singleton]
  cases hr : t.report? with
  | none => rw [List.filterMap_cons_none hr, enter, hr]; rfl
  | some r => rw [List.filterMap_cons_some hr, enter, hr]; rfl

theorem load_nil : l.load [] = l := by
  rw [load, List.append_nil]

theorem report_nil : l.report [] = l := by
  rw [report, List.append_nil]

theorem forget_nil : l.forget [] = l := by
  rw [forget, List.append_nil]

theorem forget_append (gs gs' : List Nat) : l.forget (gs ++ gs') = (l.forget gs).forget gs' := by
  rw [forget, ← List.append_assoc]
  rfl

theorem sum_settled_load (accounts : List Usage) (stream : Option Nat) :
    k.sum ((l.load accounts).settled stream) =
      k.sum (l.settled stream) + k.sum accounts := by
  rw [settled, load, settled, Counter.sum_append, Counter.sum_append, Counter.sum_append, kept,
    kept, Nat.add_right_comm]

/-- Once a stream is forgotten, everything else is what counts. -/
theorem counted_forget (g : Nat) : (l.forget [g]).counted = l.settled (some g) := by
  have hk : (l.forget [g]).kept = l.kept.filter (some ·.1 ≠ some g) := by
    rw [kept, kept, List.filter_filter]
    refine List.filter_congr fun r _ => ?_
    simp only [forget, List.mem_append, List.mem_singleton, not_or, Option.some.injEq, ne_eq,
      Bool.decide_and, Bool.and_comm]
  rw [counted, hk, settled]
  rfl

/-- A report of a stream that is not forgotten counts. -/
theorem kept_report {g : Nat} (h : g ∉ l.forgotten) (u : Usage) :
    (l.report [(g, u)]).kept = l.kept ++ [(g, u)] := by
  rw [kept, report, List.filter_append, kept]
  exact congrArg _ (List.filter_cons_of_pos (decide_eq_true h))

theorem running_report {g : Nat} (h : g ∉ l.forgotten) (u : Usage) :
    (l.report [(g, u)]).running (some g) = l.running (some g) ++ [u] := by
  have hr : [(g, u)].filter (some ·.1 = some g) = [(g, u)] := by simp
  rw [running, kept_report l h, List.filter_append, hr, List.map_append, running]
  rfl

theorem settled_report {g : Nat} (h : g ∉ l.forgotten) (u : Usage) :
    (l.report [(g, u)]).settled (some g) = l.settled (some g) := by
  rw [settled, kept_report l h, List.filter_append, List.filter_cons_of_neg (by simp),
    List.filter_nil, List.append_nil, settled]
  rfl

/-- Nothing is known of a stream that is still to come. -/
theorem running_of_new {g : Nat} (h : ∀ r ∈ l.reports, r.1 < g) : l.running (some g) = [] := by
  rw [running, List.map_eq_nil_iff, List.filter_eq_nil_iff]
  intro r hr hg
  have hlt := h r (List.mem_filter.1 hr).1
  exact Nat.ne_of_lt hlt (Option.some.inj (of_decide_eq_true hg))

theorem settled_of_new {g : Nat} (h : ∀ r ∈ l.reports, r.1 < g) :
    k.sum (l.settled (some g)) = k.sum l.counted := by
  rw [sum_counted l k (some g), running_of_new l h]
  rfl

/-- Nothing that counts is lost, unless a stream is forgotten. -/
theorem sum_counted_le_enter {t : Transition} (h : t.unnoted = []) :
    k.sum l.counted ≤ k.sum (l.enter t).counted := by
  have hr (l : Ledger) (rs : List (Nat × Usage)) : k.sum l.counted ≤ k.sum (l.report rs).counted := by
    rw [counted, counted, kept, kept, report, List.filter_append, List.map_append,
      ← List.append_assoc, k.sum_append (l.loaded ++ _)]
    exact Nat.le_add_right _ _
  have hl := l.sum_settled_load k (accountsOf t.loaded) none
  rw [settled_none, settled_none] at hl
  rw [enter, h, forget_nil]
  calc k.sum l.counted ≤ k.sum (l.load (accountsOf t.loaded)).counted := hl ▸ Nat.le_add_right _ _
    _ ≤ k.sum ((l.load (accountsOf t.loaded)).report t.report?.toList).counted := hr _ _

end Ledger

end Dialogue
