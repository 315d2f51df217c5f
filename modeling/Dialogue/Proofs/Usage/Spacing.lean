import Dialogue.Usage.Throttle
import Mathlib.Data.List.Induction

/-!
# The spacing of showings

A throttle is asked at some times and reset in between (`Throttle.Call`). What it answers is told
by the calls before (`Throttle.shows`): a time at which something was shown counts until there is
a reset (`Shown`), and the throttle remembers the last of these times (`last_run_eq_some_iff`).

* `Shown.le_last`: in the order of time, no showing is later than the one that is remembered;
* `showings_spaced`: showings are an interval apart, and nothing else is held back.
-/

namespace Dialogue.Throttle

/-- What is done with a throttle. -/
inductive Call where
  /-- It is asked at a time. -/
  | ask (now : Nat)
  | reset
  deriving DecidableEq, Repr

/-- Do one thing with a throttle. -/
def perform (t : Throttle) : Call → Throttle
  | .ask now => (t.ask now).2
  | .reset => t.reset

/-- Do one thing after the other. -/
def run (t : Throttle) (calls : List Call) : Throttle :=
  calls.foldl perform t

/-- What a new throttle answers at a time, after some calls. -/
def shows (interval : Nat) (past : List Call) (now : Nat) : Bool :=
  ((run ⟨interval, none⟩ past).ask now).1

/-- The times at which a throttle is asked. -/
def times (calls : List Call) : List Nat :=
  calls.filterMap fun | .ask now => some now | .reset => none

/-- Something was shown at a time, with no reset since. -/
def Shown (interval : Nat) (past : List Call) (time : Nat) : Prop :=
  ∃ before since, past = before ++ .ask time :: since ∧ .reset ∉ since ∧
    shows interval before time = true

/-- Something was shown at a time, with no reset and no other showing since. -/
def LastShown (interval : Nat) (past : List Call) (time : Nat) : Prop :=
  ∃ before since, past = before ++ .ask time :: since ∧ .reset ∉ since ∧
    shows interval before time = true ∧
    ∀ earlier now later, since = earlier ++ .ask now :: later →
      shows interval (before ++ .ask time :: earlier) now = false

variable {interval time now : Nat} {past : List Call}

theorem LastShown.shown (h : LastShown interval past time) : Shown interval past time := by
  obtain ⟨before, since, hp, hr, hs, -⟩ := h
  exact ⟨before, since, hp, hr, hs⟩

theorem run_concat (t : Throttle) (past : List Call) (call : Call) :
    t.run (past ++ [call]) = (t.run past).perform call :=
  List.foldl_append

theorem times_append (past later : List Call) : times (past ++ later) = times past ++ times later :=
  List.filterMap_append

theorem interval_run (t : Throttle) (past : List Call) : (t.run past).interval = t.interval := by
  induction past using List.reverseRecOn with
  | nil => rfl
  | append_singleton past call ih =>
    rw [run_concat, ← ih]
    cases call with
    | reset => rfl
    | ask now =>
      rw [perform, ask]
      split <;> rfl

/-- What is remembered is whatever was shown. -/
theorem last_run_ask (interval : Nat) (past : List Call) (now : Nat) :
    (run ⟨interval, none⟩ (past ++ [.ask now])).last =
      if shows interval past now then some now else (run ⟨interval, none⟩ past).last := by
  rw [run_concat, perform, shows, ask]
  split <;> rfl

theorem last_run_reset (interval : Nat) (past : List Call) :
    (run ⟨interval, none⟩ (past ++ [.reset])).last = none := by
  rw [run_concat]
  rfl

/-- What is answered depends on what is remembered. -/
theorem shows_eq (interval : Nat) (past : List Call) (now : Nat) :
    shows interval past now =
      match (run ⟨interval, none⟩ past).last with
      | some last => interval ≤ now - last
      | none => true := by
  have hd (t : Throttle) : (t.ask now).1 = t.isDue now := by
    rw [ask]
    split
    · next h => exact h.symm
    · next h => exact (Bool.eq_false_iff.2 h).symm
  cases hl : (run ⟨interval, none⟩ past).last with
  | none => simp only [shows, hd, isDue, hl]
  | some last => simp only [shows, hd, isDue, interval_run, hl]

/-! ## What was shown before -/

/-- A call among some calls is the last one, or it is among those before the last one. -/
theorem of_concat_eq {before since : List Call} {call call' : Call}
    (h : past ++ [call'] = before ++ call :: since) :
    since = [] ∧ past = before ∧ call' = call ∨
      ∃ since', since = since' ++ [call'] ∧ past = before ++ call :: since' := by
  rcases List.eq_nil_or_concat since with rfl | ⟨since', call'', rfl⟩
  · obtain ⟨rfl, hc⟩ := List.append_inj' h rfl
    exact .inl ⟨rfl, rfl, List.singleton_inj.1 hc⟩
  · rw [List.concat_eq_append, ← List.cons_append, ← List.append_assoc] at h
    obtain ⟨rfl, hc⟩ := List.append_inj' h rfl
    rw [List.singleton_inj.1 hc]
    exact .inr ⟨since', List.concat_eq_append, rfl⟩

theorem not_shown_nil : ¬Shown interval [] time := by
  rintro ⟨before, since, hp, -⟩
  exact List.append_ne_nil_of_right_ne_nil _ (List.cons_ne_nil _ _) hp.symm

/-- After a reset nothing counts that was shown before. -/
theorem not_shown_reset : ¬Shown interval (past ++ [.reset]) time := by
  rintro ⟨before, since, hp, hr, -⟩
  rcases of_concat_eq hp with ⟨-, -, hc⟩ | ⟨since', rfl, -⟩
  · cases hc
  · exact hr (List.mem_append_right _ List.mem_cons_self)

/-- What was shown when a throttle has been asked is shown now, or was shown before. -/
theorem Shown.of_ask (h : Shown interval (past ++ [.ask now]) time) :
    time = now ∧ shows interval past now = true ∨ Shown interval past time := by
  obtain ⟨before, since, hp, hr, hs⟩ := h
  rcases of_concat_eq hp with ⟨-, rfl, hc⟩ | ⟨since', rfl, rfl⟩
  · cases hc
    exact .inl ⟨rfl, hs⟩
  · exact .inr ⟨before, since', rfl, fun hm => hr (List.mem_append_left _ hm), hs⟩

/-- What was shown last, too, is shown now, or was shown last before and is not shown now. -/
theorem lastShown_ask_iff : LastShown interval (past ++ [.ask now]) time ↔
    if shows interval past now then time = now else LastShown interval past time := by
  constructor
  · rintro ⟨before, since, hp, hr, hs, hn⟩
    -- It is the last call that showed it, or nothing was shown by that one.
    rcases of_concat_eq hp with ⟨-, rfl, hc⟩ | ⟨since', rfl, rfl⟩
    · cases hc
      rw [if_pos hs]
    · rw [if_neg (by rw [hn since' now [] rfl]; exact Bool.noConfusion)]
      refine ⟨before, since', rfl, fun hm => hr (List.mem_append_left _ hm), hs, ?_⟩
      rintro earlier now' later rfl
      exact hn earlier now' (later ++ [.ask now]) (List.append_assoc _ _ _)
  · intro h
    split at h
    · next hs =>
      subst h
      exact ⟨past, [], rfl, List.not_mem_nil, hs,
        fun _ _ _ h => absurd h.symm (List.append_ne_nil_of_right_ne_nil _ (List.cons_ne_nil _ _))⟩
    · next hs =>
      obtain ⟨before, since, rfl, hr, ht, hn⟩ := h
      refine ⟨before, since ++ [.ask now], by simp, by simpa using hr, ht, ?_⟩
      intro earlier now' later h
      rcases of_concat_eq h with ⟨-, rfl, hc⟩ | ⟨later, -, rfl⟩
      · cases hc
        exact Bool.eq_false_iff.2 hs
      · exact hn earlier now' later rfl

/-- A throttle remembers what was shown last. -/
theorem last_run_eq_some_iff :
    (run ⟨interval, none⟩ past).last = some time ↔ LastShown interval past time := by
  induction past using List.reverseRecOn with
  | nil => exact ⟨nofun, fun h => absurd h.shown not_shown_nil⟩
  | append_singleton past call ih =>
    cases call with
    | reset =>
      rw [last_run_reset]
      exact ⟨nofun, fun h => absurd h.shown not_shown_reset⟩
    | ask now =>
      rw [last_run_ask, lastShown_ask_iff, ← ih]
      split
      · rw [Option.some_inj, eq_comm]
      · rfl

theorem mem_times_of_shown (h : Shown interval past time) : time ∈ times past := by
  obtain ⟨before, since, rfl, -⟩ := h
  rw [times_append]
  exact List.mem_append_right _ List.mem_cons_self

/-- In the order of time, nothing was shown later than what was shown last. -/
theorem Shown.le_last (h : Shown interval past time) (ht : (times past).Pairwise (· ≤ ·)) :
    ∃ last, LastShown interval past last ∧ time ≤ last := by
  induction past using List.reverseRecOn with
  | nil => exact absurd h not_shown_nil
  | append_singleton past call ih =>
    cases call with
    | reset => exact absurd h not_shown_reset
    | ask now =>
      obtain ⟨ht, -, hle⟩ := List.pairwise_append.1 (times_append past [.ask now] ▸ ht)
      simp only [lastShown_ask_iff]
      rcases h.of_ask with ⟨rfl, hs⟩ | h
      -- What was shown before is not later than now, if something is shown now.
      · exact ⟨time, by rw [if_pos hs], Nat.le_refl _⟩
      · split
        · exact ⟨now, rfl, hle time (mem_times_of_shown h) now List.mem_cons_self⟩
        · exact ih h ht

/-! ## What is shown now -/

theorem shows_iff_of_lastShown (h : LastShown interval past time) (now : Nat) :
    shows interval past now = true ↔ interval ≤ now - time := by
  rw [shows_eq, last_run_eq_some_iff.2 h, decide_eq_true_eq]

/-- Where nothing is shown, something was shown before. -/
theorem exists_lastShown (h : shows interval past now = false) :
    ∃ time, LastShown interval past time := by
  cases hl : (run ⟨interval, none⟩ past).last with
  | some time => exact ⟨time, last_run_eq_some_iff.1 hl⟩
  | none =>
    rw [shows_eq, hl] at h
    cases h

/-- Showings are an interval apart, if time does not go backwards, and a throttle that was made or
    reset just now shows what it is asked to show. Nothing is held back unless something was shown
    less than the interval before, with no reset since. If time has gone backwards since the last
    showing, the answer is the one at the time of that showing. -/
theorem showings_spaced (interval : Nat) (past : List Call) (now : Nat) :
    ((times past ++ [now]).Pairwise (· ≤ ·) → ∀ time, Shown interval past time →
      shows interval past now = true → time + interval ≤ now) ∧
    (past.getLast? = none ∨ past.getLast? = some .reset → shows interval past now = true) ∧
    (shows interval past now = false → ∃ time, Shown interval past time ∧
      ((times past ++ [now]).Pairwise (· ≤ ·) → time ≤ now) ∧ now < time + interval) ∧
    ∀ time, LastShown interval past time → now ≤ time →
      shows interval past now = shows interval past time ∧
        (shows interval past now = true ↔ interval = 0) := by
  have le_now (ht : (times past ++ [now]).Pairwise (· ≤ ·)) {time : Nat}
      (h : Shown interval past time) : time ≤ now :=
    (List.pairwise_append.1 ht).2.2 time (mem_times_of_shown h) now List.mem_cons_self
  refine ⟨fun ht time h hs => ?_, fun h => ?_, fun hs => ?_, fun time h hle => ?_⟩
  · obtain ⟨last, hl, hle⟩ := h.le_last (List.pairwise_append.1 ht).1
    have hn : last ≤ now := le_now ht hl.shown
    have hi : interval ≤ now - last := (shows_iff_of_lastShown hl now).1 hs
    omega
  · rw [← Bool.not_eq_false]
    intro hs
    obtain ⟨time, hl⟩ := exists_lastShown hs
    rcases h with h | h
    · rw [List.getLast?_eq_none_iff] at h
      subst h
      exact not_shown_nil hl.shown
    · obtain ⟨past, rfl⟩ := List.getLast?_eq_some_iff.1 h
      exact not_shown_reset hl.shown
  · obtain ⟨time, hl⟩ := exists_lastShown hs
    have hi : ¬interval ≤ now - time := fun hi =>
      Bool.eq_false_iff.1 hs ((shows_iff_of_lastShown hl now).2 hi)
    exact ⟨time, hl.shown, fun ht => le_now ht hl.shown, by omega⟩
  · have hz : shows interval past now = true ↔ interval = 0 := by
      rw [shows_iff_of_lastShown h, Nat.sub_eq_zero_of_le hle, Nat.le_zero]
    refine ⟨Bool.eq_iff_iff.2 ?_, hz⟩
    rw [hz, shows_iff_of_lastShown h, Nat.sub_self, Nat.le_zero]

/-- After a reset the throttle is asked at once, too soon, just in time, and when the clock was
    put back. -/
theorem showings_spaced_reset :
    let past : List Call := [.ask 0, .ask 50, .reset, .ask 60, .ask 259]
    (times past ++ [260]).Pairwise (· ≤ ·) ∧ Shown 200 past 60 ∧ LastShown 200 past 60 ∧
      shows 200 past 260 = true ∧ 60 + 200 ≤ 260 ∧
      shows 200 [.ask 0, .ask 50, .reset] 60 = true ∧
      (∃ time, Shown 200 past time ∧ 259 < time + 200) ∧
      shows 200 past 10 = shows 200 past 60 := by
  intro past
  have ht : (times past ++ [260]).Pairwise (· ≤ ·) := by decide
  have hl : LastShown 200 past 60 := last_run_eq_some_iff.1 (by decide)
  have hs : shows 200 past 260 = true := by decide
  have hn : shows 200 past 259 = false := by decide
  obtain ⟨time, hshown, -, hlt⟩ := (showings_spaced 200 past 259).2.2.1 hn
  exact ⟨ht, hl.shown, hl, hs, (showings_spaced 200 past 260).1 ht 60 hl.shown hs,
    (showings_spaced 200 [.ask 0, .ask 50, .reset] 60).2.1 (.inr rfl), ⟨time, hshown, hlt⟩,
    ((showings_spaced 200 past 10).2.2.2 60 hl (by decide)).1⟩

end Dialogue.Throttle
