import Dialogue.Proofs.Approval

/-!
# The progress of a bulk decision

A coordinator may be asked anything in any order (`Coordinator.Operation`): to begin a bulk
decision, also while another one runs, to go on when the call under way is done, and to give
up. What it answers along the way are the calls that it hands out (`Coordinator.handedOut`).

A bulk decision without calls is nothing to begin. If another one runs then, its waiting calls
are dropped and its progress stays, so that it no longer says how far things have come. Apart
from that (`Coordinator.orderly`) the progress always adds up:

* `Tallied.perform`, `Bounded.perform`: what one operation keeps, in order or not;
* `handedOut_begin`: the calls of a bulk decision are handed out one by one, whatever was
  asked before it began;
* `bulk_progress_adds_up`: after any operations.
-/

namespace Dialogue.Coordinator

/-- What a coordinator is asked. -/
inductive Operation where
  | begin (decision : Decision) (callIds : List String)
  /-- The call under way is done. -/
  | complete
  | abort
  deriving DecidableEq, Repr

/-- What a coordinator answers. -/
inductive Answer where
  /-- The first call of a bulk decision, if it has begun. -/
  | begun (first : Option (String × Progress))
  | stepped (step : BulkStep)
  /-- The progress of the bulk decision that was given up. -/
  | aborted (progress : Option Progress)
  deriving DecidableEq, Repr

/-- Do what is asked. -/
def perform (c : Coordinator) : Operation → Answer × Coordinator
  | .begin decision callIds => let (first, c) := c.begin decision callIds; (.begun first, c)
  | .complete => let (step, c) := c.complete; (.stepped step, c)
  | .abort => let (progress, c) := c.abort; (.aborted progress, c)

/-- Do all that is asked. -/
def run (c : Coordinator) (ops : List Operation) : Coordinator :=
  ops.foldl (fun c op => (c.perform op).2) c

/-- What is answered to all that is asked. -/
def answers (c : Coordinator) : List Operation → List Answer
  | [] => []
  | op :: ops => (c.perform op).1 :: (c.perform op).2.answers ops

/-- The calls that are to be started, each with the decision on it. -/
def handedOut (as : List Answer) : List (String × Decision) :=
  as.filterMap fun
    | .begun (some (callId, progress)) => some (callId, progress.decision)
    | .stepped (.next callId decision _) => some (callId, decision)
    | _ => none

/-- Whether an operation is in order: no bulk decision begins without calls while one runs. -/
def admits (c : Coordinator) : Operation → Bool
  | .begin _ [] => !c.isDraining
  | _ => true

/-- Whether all operations are in order. -/
def orderly (c : Coordinator) : List Operation → Bool
  | [] => true
  | op :: ops => c.admits op && (c.perform op).2.orderly ops

variable {c : Coordinator} {op : Operation} {ops : List Operation}

theorem orderly_append (c : Coordinator) (ops later : List Operation) :
    c.orderly (ops ++ later) = (c.orderly ops && (c.run ops).orderly later) := by
  induction ops generalizing c with
  | nil => rfl
  | cons op ops ih =>
    rw [List.cons_append, orderly, ih, orderly, Bool.and_assoc]
    rfl

/-! ## What one operation keeps -/

theorem progress_eq_none_iff (c : Coordinator) : c.progress = none ↔ c.isDraining = false := by
  rw [isDraining, Option.isSome_eq_false_iff, Option.isNone_iff_eq_none]

/-- No call waits unless a bulk decision runs, and never are there more than the total says. -/
structure Bounded (c : Coordinator) : Prop where
  waiting : c.progress = none → c.waiting = []
  le : ∀ p ∈ c.progress, p.completed + 1 + c.waiting.length ≤ p.total

theorem bounded_of_none (hw : c.waiting = []) (hp : c.progress = none) : c.Bounded :=
  ⟨fun _ => hw, fun p h => absurd (hp ▸ h) (Option.not_mem_none p)⟩

theorem bounded_begun (rest : List String) (decision : Decision) :
    Bounded ⟨rest, some ⟨0, rest.length + 1, decision⟩⟩ :=
  ⟨nofun, fun p hp => Nat.le_of_eq (tallied_begun rest decision p hp)⟩

/-- Whatever is asked, the coordinator stays within bounds. -/
theorem Bounded.perform (h : c.Bounded) (op : Operation) : (c.perform op).2.Bounded := by
  obtain ⟨waiting, progress⟩ := c
  cases op with
  | abort => exact bounded_of_none rfl rfl
  | begin decision callIds =>
    cases callIds with
    | cons first rest => exact bounded_begun rest decision
    | nil =>
      -- The calls that wait are dropped, so there may be fewer than the total says.
      exact ⟨fun _ => rfl, fun p hp =>
        Nat.le_trans (Nat.add_le_add_left (Nat.zero_le _) _) (h.le p hp)⟩
  | complete =>
    cases progress with
    | none => exact h
    | some p =>
      cases waiting with
      | nil => exact bounded_of_none rfl rfl
      | cons next rest =>
        refine ⟨nofun, ?_⟩
        rintro p' ⟨⟩
        exact Nat.le_trans (Nat.le_of_eq (Nat.add_right_comm _ _ _)) (h.le p rfl)

/-- What is asked in order keeps the progress adding up. -/
theorem Tallied.perform (h : c.Tallied) (ho : c.admits op = true) : (c.perform op).2.Tallied := by
  cases op with
  | abort => exact tallied_of_none rfl
  | complete => exact h.complete
  | begin decision callIds =>
    cases callIds with
    | cons first rest => exact tallied_begun rest decision
    | nil => exact tallied_of_none ((progress_eq_none_iff c).2 ((Bool.not_eq_true' _).mp ho))

/-- The last call leaves no other waiting, so that all are done. -/
theorem Tallied.of_finished (h : c.Tallied) {p : Progress}
    (hf : .stepped (.finished p) = (c.perform op).1) : p.completed = p.total := by
  obtain ⟨waiting, progress⟩ := c
  cases op with
  | begin | abort => exact nomatch hf
  | complete =>
    cases progress with
    | none => exact nomatch hf
    | some q =>
      cases waiting with
      | cons next rest => exact nomatch hf
      | nil =>
        obtain rfl := BulkStep.finished.inj (Answer.stepped.inj hf)
        exact h q rfl

/-! ## After any operations -/

theorem Bounded.run (h : c.Bounded) (ops : List Operation) : (c.run ops).Bounded := by
  induction ops generalizing c with
  | nil => exact h
  | cons op ops ih => exact ih (h.perform op)

theorem Tallied.run (h : c.Tallied) (ho : c.orderly ops = true) :
    (c.run ops).Tallied ∧
      ∀ p, .stepped (.finished p) ∈ c.answers ops → p.completed = p.total := by
  induction ops generalizing c with
  | nil => exact ⟨h, fun p hp => absurd hp List.not_mem_nil⟩
  | cons op ops ih =>
    obtain ⟨hop, hops⟩ := Bool.and_eq_true_iff.1 ho
    obtain ⟨ht, hf⟩ := ih (h.perform hop) hops
    refine ⟨ht, fun p hp => ?_⟩
    rcases List.mem_cons.1 hp with hp | hp
    · exact h.of_finished hp
    · exact hf p hp

/-! ## Handing out calls -/

theorem perform_midway {calls : List String} {i : Nat} (decision : Decision)
    (hi : i + 1 < calls.length) : (midway calls decision i).perform .complete =
      (.stepped (.next calls[i + 1] decision ⟨i + 1, calls.length, decision⟩),
        midway calls decision (i + 1)) := by
  rw [perform, complete_midway decision hi]

theorem perform_last {calls : List String} {i : Nat} (decision : Decision)
    (hi : i + 1 = calls.length) : (midway calls decision i).perform .complete =
      (.stepped (.finished ⟨calls.length, calls.length, decision⟩), {}) := by
  rw [perform, complete_last decision hi]

/-- Without a bulk decision there is nothing to go on with. -/
theorem answers_of_none (h : c.progress = none) (k : Nat) :
    c.answers (List.replicate k .complete) = List.replicate k (.stepped .idle) := by
  induction k with
  | zero => rfl
  | succ k ih => rw [List.replicate_succ, answers, perform, complete_of_none h, ih]; rfl

/-- In the middle of a bulk decision, each call that is done is followed by the next one, and
    the last one ends it. -/
theorem answers_midway {calls : List String} (decision : Decision) {i : Nat}
    (hi : i < calls.length) (k : Nat) :
    let as := (midway calls decision i).answers (List.replicate k .complete)
    handedOut as = ((calls.drop (i + 1)).take k).map (·, decision) ∧
      ∀ p, .stepped (.finished p) ∈ as ↔
        calls.length ≤ i + k ∧ p = ⟨calls.length, calls.length, decision⟩ := by
  induction k generalizing i with
  | zero => exact ⟨rfl, fun p => ⟨nofun, fun hp => absurd hp.1 (Nat.not_le.2 hi)⟩⟩
  | succ k ih =>
    rw [List.replicate_succ, answers]
    by_cases hn : i + 1 < calls.length
    · obtain ⟨hh, hf⟩ := ih hn
      rw [perform_midway decision hn, List.drop_eq_getElem_cons hn]
      refine ⟨congrArg (_ :: ·) hh, fun p => ?_⟩
      rw [List.mem_cons, hf p, Nat.add_assoc, Nat.add_comm 1 k]
      exact ⟨fun h => h.resolve_left nofun, .inr⟩
    · have hl : i + 1 = calls.length := Nat.le_antisymm hi (Nat.not_lt.1 hn)
      rw [perform_last decision hl, hl, List.drop_length, answers_of_none rfl]
      refine ⟨?_, fun p => ?_⟩
      · rw [handedOut, List.filterMap_cons_none rfl, List.filterMap_replicate_of_none rfl]
        rfl
      · rw [List.mem_cons, List.mem_replicate]
        constructor
        · rintro (h | ⟨_, h⟩)
          · exact ⟨by omega, BulkStep.finished.inj (Answer.stepped.inj h)⟩
          · exact nomatch h
        · rintro ⟨_, rfl⟩
          exact .inl rfl

/-- The calls of a bulk decision are handed out one by one, the first when it begins and the
    next when the one before is done, and it is over when they all are. -/
theorem handedOut_begin (c : Coordinator) (decision : Decision) {callIds : List String}
    (h : callIds ≠ []) (k : Nat) :
    let as := c.answers (.begin decision callIds :: List.replicate k .complete)
    handedOut as = (callIds.take (k + 1)).map (·, decision) ∧
      ∀ p, .stepped (.finished p) ∈ as ↔
        callIds.length ≤ k ∧ p = ⟨callIds.length, callIds.length, decision⟩ := by
  obtain ⟨first, rest, rfl⟩ := List.exists_cons_of_ne_nil h
  have hlt : 0 < (first :: rest).length := Nat.succ_pos _
  obtain ⟨hh, hp⟩ := answers_midway decision hlt k
  have ha : c.answers (.begin decision (first :: rest) :: List.replicate k .complete) =
      .begun (some (first, ⟨0, rest.length + 1, decision⟩)) ::
        (midway (first :: rest) decision 0).answers (List.replicate k .complete) := rfl
  rw [ha]
  refine ⟨congrArg ((first, decision) :: ·) hh, fun p => ?_⟩
  rw [List.mem_cons, hp p, Nat.zero_add]
  exact ⟨fun h => h.resolve_left nofun, .inr⟩

/-- Whatever a coordinator is asked, no call waits unless a bulk decision runs, and those that
    are done, those that wait and the one under way are never more than the total. A bulk
    decision that has begun hands out exactly its calls, once each and in order, with its
    decision, as one after the other is done, and it is over when they all are, with all of
    them counted.

    The progress adds up to the total as long as no bulk decision begins without calls while
    one runs. Then nothing runs after one that did not begin, and each that is over has
    counted all its calls, whatever came in between. -/
theorem bulk_progress_adds_up (ops : List Operation) :
    let c := run {} ops
    (c.isDraining = false → c.waiting.length = 0) ∧
      (∀ p ∈ c.progress, p.completed + c.waiting.length + 1 ≤ p.total) ∧
      (∀ past decision callIds done future,
        ops = past ++ .begin decision callIds :: (done ++ future) →
        ((run {} past).begin decision callIds).1 ≠ none → (∀ op ∈ done, op = .complete) →
        let as := (run {} past).answers (.begin decision callIds :: done)
        handedOut as = (callIds.take (done.length + 1)).map (·, decision) ∧
          ∀ p, .stepped (.finished p) ∈ as ↔
            callIds.length ≤ done.length ∧ p = ⟨callIds.length, callIds.length, decision⟩) ∧
      (orderly {} ops = true →
        (∀ p ∈ c.progress, p.completed + c.waiting.length + 1 = p.total) ∧
          (∀ past decision callIds future, ops = past ++ .begin decision callIds :: future →
            ((run {} past).begin decision callIds).1 = none →
            ((run {} past).begin decision callIds).2.isDraining = false) ∧
          ∀ p, .stepped (.finished p) ∈ answers {} ops → p.completed = p.total) := by
  intro c
  have hb : c.Bounded := (bounded_of_none rfl rfl : Bounded {}).run ops
  refine ⟨fun hd => ?_, fun p hp => ?_, ?_, fun ho => ?_⟩
  · rw [hb.waiting ((progress_eq_none_iff c).2 hd)]
    rfl
  · exact Nat.add_right_comm _ _ _ ▸ hb.le p hp
  · rintro past decision callIds done future - hs hd
    have hne : callIds ≠ [] := fun h => hs (by rw [h]; rfl)
    have hh := handedOut_begin (run {} past) decision hne done.length
    rwa [← List.eq_replicate_iff.2 ⟨rfl, hd⟩] at hh
  · obtain ⟨ht, hf⟩ := (tallied_of_none rfl : Tallied {}).run ho
    refine ⟨fun p hp => Nat.add_right_comm _ _ _ ▸ ht p hp, ?_, hf⟩
    rintro past decision callIds future rfl hn
    rw [orderly_append, Bool.and_eq_true_iff] at ho
    have hop := (Bool.and_eq_true_iff.1 ho.2).1
    -- Only a bulk decision without calls does not begin.
    cases callIds with
    | cons first rest => exact nomatch hn
    | nil => exact (Bool.not_eq_true' _).mp hop

/-- A bulk decision is replaced by another one, which is over when its only call is done, and
    then one without calls is begun. -/
theorem bulk_progress_adds_up_replaced :
    let ops : List Operation := [.begin .approve ["c1", "c2", "c3"], .complete,
      .begin .deny ["c4"], .complete, .begin .approve []]
    orderly {} ops = true ∧
      Answer.stepped (.finished ⟨1, 1, .deny⟩) ∈ answers {} ops ∧
      ∀ p, .stepped (.finished p) ∈ answers {} ops → p.completed = p.total := by
  intro ops
  have ho : orderly {} ops = true := by decide
  exact ⟨ho, by decide, ((bulk_progress_adds_up ops).2.2.2 ho).2.2⟩

/-- One bulk decision is asked to begin without calls while another runs. It does not begin, but
    the other one goes on without the calls that were waiting, and is over before they were
    decided. -/
theorem progress_outlives_calls :
    let ops : List Operation := [.begin .approve ["c1", "c2", "c3"], .begin .deny []]
    let c := run {} ops
    answers {} ops = [.begun (some ("c1", ⟨0, 3, .approve⟩)), .begun none] ∧
      c.isDraining = true ∧
      ¬(∀ p ∈ c.progress, p.completed + c.waiting.length + 1 = p.total) ∧
      (c.perform .complete).1 = .stepped (.finished ⟨1, 3, .approve⟩) := by
  decide

end Dialogue.Coordinator
