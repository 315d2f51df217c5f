import Dialogue.Proofs.Session.Ledger

/-!
# What a session accounts for

The account of a session is kept in three places: what the running stream has used, what the
message that it continues had used before, and what is noted on finalized messages. Between
them they always hold what the ledger counts (`Session.Balanced`), counter by counter.

An operation may end a stream and open another one. It carries the ledger on (`Session.Books`),
without the reports of a stream that it ends while no message is in progress, and operations
that do so can follow each other (`Books.bind`):

* `Balanced.ended`: when a stream ends, its usage is noted on its message;
* `Balanced.openStream`: when a message is continued, what it had used goes with it;
* `Balanced.recordUsage`: a report is added to the usage of the stream;
* `Balanced.reaction`: so every way of taking an input carries the ledger on;
* `session_usage_accounts_reports`: the usage of a session is what the ledger counts.
-/

namespace Dialogue

/-- The account noted when a message is finalized is the one given, if that is at least what
    was noted before: an account that is left out is empty. -/
theorem Counter.read_settle (k : Counter) {p : InProgress} {u : Usage}
    (h : (k.read (p.message.usage.getD .empty)).val ≤ (k.read u).val) :
    k.read ((Transcript.InProgress.settle p (some u)).usage.getD .empty) = k.read u := by
  rw [Transcript.InProgress.settle]
  cases he : u.isEmpty with
  | false =>
    rw [Option.filter_some, if_pos (by rw [he]; rfl)]
    rfl
  | true =>
    obtain rfl : u = .empty := beq_iff_eq.1 he
    rw [k.read_empty] at h ⊢
    exact Count.ext (Nat.le_zero.1 h)

namespace Session

open Effect StreamLog Transcript

variable {s s' s'' : Session} {k : Counter} {l : Ledger}

/-- The stream of the turn. -/
def stream? (s : Session) : Option Nat :=
  s.turn.map (·.generation)

/-- What the message that the stream continues had used before. -/
def baseUsage (s : Session) : Usage :=
  (s.turn.map (·.baseUsage)).getD .empty

/-- What is noted on the message in progress. -/
def notedUsage (s : Session) : Usage :=
  (s.transcript.current?.bind (·.usage)).getD .empty

/-- A session accounts for what a ledger counts. Of the stream of the turn that is what the
    stream used; of everything else it is what is noted on finalized messages, and what the
    message that the stream continues had used before. -/
structure Balanced (k : Counter) (l : Ledger) (s : Session) : Prop where
  reports_le : ∀ r ∈ l.reports, r.1 ≤ s.generation
  forgotten_le : ∀ g ∈ l.forgotten, g ≤ s.generation
  notMem_forgotten : ∀ g ∈ s.stream?, g ∉ l.forgotten
  settled : Count.ofNat (k.sum (accountsOf s.transcript.finalized)) + k.read s.baseUsage =
    Count.ofNat (k.sum (l.settled s.stream?))
  running : ∀ g ∈ s.stream?, k.read s.usage = Count.ofNat (k.sum (l.running (some g)))
  base : s.transcript.inProgress = none → k.read s.baseUsage = 0
  noted : (k.read s.notedUsage).val ≤ (k.read s.baseUsage + k.read s.usage).val

/-- What a balanced session accounts for is all that counts. -/
theorem Balanced.sessionUsage (h : s.Balanced k l) :
    k.read s.sessionUsage = Count.ofNat (k.sum l.counted) := by
  have hs := h.settled
  rw [Session.sessionUsage, k.read_aggregate, l.sum_counted k s.stream?, Count.ofNat_add,
    ← hs, Count.add_assoc]
  congr 1
  cases ht : s.turn with
  | none =>
    rw [stream?, baseUsage, ht, Option.map_none, Option.map_none, Option.map_none, l.running_none]
    exact (Count.add_zero _).symm
  | some turn =>
    have hg : s.stream? = some turn.generation := by rw [stream?, ht]; rfl
    rw [hg, ← h.running _ hg]
    exact k.read_combine _ _

theorem balanced_start (k : Counter) (conversationId : String) (interval now : Nat) (ids : Ids) :
    (start conversationId interval now ids).Balanced k {} where
  reports_le _ h := absurd h List.not_mem_nil
  forgotten_le _ h := absurd h List.not_mem_nil
  notMem_forgotten _ h := absurd h (Option.not_mem_none _)
  settled := by rw [baseUsage, stream?]; cases k <;> rfl
  running _ h := absurd h (Option.not_mem_none _)
  base _ := k.read_empty
  noted := by
    rw [show (start conversationId interval now ids).notedUsage = .empty from rfl, k.read_empty]
    exact Nat.zero_le _

/-! ## Writing -/

/-- Nothing was done from one session to the other to what is accounted for: at most, a
    message without an account was begun. -/
structure Leaves (s s' : Session) : Prop where
  usage : s'.usage = s.usage
  finalized : s'.transcript.finalized = s.transcript.finalized
  inProgress : s'.transcript.inProgress = none → s.transcript.inProgress = none
  noted : s'.notedUsage = s.notedUsage

theorem leaves_of_eq (hu : s'.usage = s.usage) (hx : s'.transcript = s.transcript) :
    s.Leaves s' :=
  ⟨hu, by rw [hx], by rw [hx]; exact id, by rw [notedUsage, hx, notedUsage]⟩

/-- A session stays balanced in the same stream, if what is accounted for is left alone. -/
theorem Balanced.leaves (h : s.Balanced k l) (ha : s.Leaves s')
    (hg : s.generation ≤ s'.generation) (ht : s'.stream? = s.stream?)
    (hb : s'.baseUsage = s.baseUsage) : s'.Balanced k l where
  reports_le r hr := Nat.le_trans (h.reports_le r hr) hg
  forgotten_le g hg' := Nat.le_trans (h.forgotten_le g hg') hg
  notMem_forgotten := by rw [ht]; exact h.notMem_forgotten
  settled := by rw [ha.finalized, hb, ht]; exact h.settled
  running := by rw [ht, ha.usage]; exact h.running
  base hp := by rw [hb]; exact h.base (ha.inProgress hp)
  noted := by rw [ha.noted, hb, ha.usage]; exact h.noted

theorem Continues.stream? (h : s.Continues s') : s'.stream? = s.stream? := by
  obtain ⟨runId, ht⟩ := h.turn
  rw [Session.stream?, ht, Option.map_map]
  rfl

theorem Continues.baseUsage (h : s.Continues s') : s'.baseUsage = s.baseUsage := by
  obtain ⟨runId, ht⟩ := h.turn
  rw [Session.baseUsage, ht, Option.map_map]
  rfl

theorem leaves_updateCurrent {p : InProgress} (hp : s.transcript.inProgress = some p)
    {m : Message} (hm : m.usage = p.message.usage) {ids : Ids} :
    s.Leaves (updateCurrent { s with ids } m) := by
  rw [updateCurrent_eq (s := { s with ids }) hp, setCurrent_of_some hp]
  refine ⟨rfl, rfl, fun hn => absurd hn (Option.some_ne_none _), ?_⟩
  rw [notedUsage, notedUsage, current?, current?, hp]
  exact congrArg (·.getD Usage.empty) hm

theorem leaves_ensured (hb : s.transcript.BelongsTo s.generation) {m : Message}
    (hm : m.usage = s.ensureCurrent.1.usage) {ids : Ids} :
    s.Leaves (updateCurrent { s.ensureCurrent.2 with ids } m) := by
  cases hp : s.transcript.inProgress with
  | some p =>
    rw [ensureCurrent_of_some hb hp] at hm ⊢
    exact leaves_updateCurrent hp hm
  | none =>
    -- A message that begins has no account yet.
    rw [ensureCurrent_of_none hp] at hm ⊢
    rw [updateCurrent_eq (s := { s.answering with ids }) rfl, setCurrent_of_some rfl]
    refine ⟨rfl, rfl, fun _ => hp, ?_⟩
    rw [notedUsage, notedUsage, current?, current?, hp]
    exact congrArg (·.getD Usage.empty) hm

theorem leaves_appendText (hb : s.transcript.BelongsTo s.generation) (text : String) :
    s.Leaves (s.appendText text) := by
  rw [appendText]
  split
  · exact leaves_of_eq rfl rfl
  · exact leaves_ensured hb (Message.usage_appendText _ _ text)

theorem leaves_applyPending (hb : s.transcript.BelongsTo s.generation) (us : List ToolUpdate) :
    s.Leaves (s.applyPending us) := by
  rw [applyPending]
  split
  · exact leaves_of_eq rfl rfl
  · next hu =>
    obtain ⟨hc, _⟩ := s.ensureCurrent.1.changed_applyPending (mt List.isEmpty_iff.2 hu)
    simp only [hc, if_true]
    exact leaves_ensured hb (Message.usage_applyPending _ us)

theorem leaves_applyTool (hb : s.transcript.BelongsTo s.generation) (kind : ToolEvent)
    (u : ToolUpdate) : s.Leaves (s.applyTool kind u) := by
  rw [applyTool]
  split
  · have hc := s.ensureCurrent.1.changed_applyUpdate u
    simp only [hc, if_true]
    exact leaves_ensured hb (Message.usage_applyUpdate _ u true)
  · split
    · exact leaves_of_eq rfl rfl
    · next m hm =>
      rw [hb.currentOf?] at hm
      obtain ⟨p, hp, rfl⟩ := Option.map_eq_some_iff.1 hm
      simp only
      split
      · exact leaves_updateCurrent hp (Message.usage_applyUpdate _ u false)
      · exact leaves_of_eq rfl rfl

/-! ## Reporting -/

/-- A session that records usage is balanced if the ledger has as much more of the stream of
    the turn, and of everything else what it had before. -/
theorem Balanced.recordUsage (h : s.Balanced k l) (hb : s.transcript.BelongsTo s.generation)
    {delta : Usage} {l' : Ledger} (hr : ∀ r ∈ l'.reports, r.1 ≤ s.generation)
    (hf : l'.forgotten = l.forgotten)
    (hs : k.sum (l'.settled s.stream?) = k.sum (l.settled s.stream?))
    (hn : ∀ g ∈ s.stream?,
      k.sum (l'.running (some g)) = k.sum (l.running (some g)) + (k.read delta).val) :
    (s.recordUsage delta).Balanced k l' := by
  have hc := s.continues_recordUsage delta
  have hu : (s.recordUsage delta).usage = s.usage.merge delta := by
    rw [recordUsage_eq]
    rfl
  have hx : (s.recordUsage delta).transcript =
      s.transcript.noted (some (inFlightUsage { s with usage := s.usage.merge delta })) := by
    rw [recordUsage_eq]
    exact accountedTranscript_eq hb delta
  refine ⟨?_, ?_, ?_, ?_, ?_, ?_, ?_⟩
  · rw [hc.generation]
    exact hr
  · rw [hc.generation, hf]
    exact h.forgotten_le
  · rw [hc.stream?, hf]
    exact h.notMem_forgotten
  · rw [hc.stream?, hc.baseUsage, hx, hs]
    exact h.settled
  · rw [hc.stream?, hu]
    intro g hg
    rw [k.read_merge, h.running g hg, hn g hg, Count.ofNat_add, Count.ofNat_val]
  · rw [hc.baseUsage, hx]
    exact fun hp => h.base (Option.map_eq_none_iff.1 hp)
  · rw [hc.baseUsage, hu, notedUsage, hx]
    cases hp : s.transcript.inProgress with
    | none =>
      rw [noted_of_none hp, current?, hp, Option.map_none, Option.bind_none, Option.getD_none,
        k.read_empty]
      exact Nat.zero_le _
    | some p =>
      -- All that the turn used is noted on the message.
      rw [noted_of_some hp, setCurrent_of_some hp]
      exact Nat.le_of_eq (congrArg Count.val (k.read_combine _ _))

/-- The report of an event is entered with the generation of the turn. -/
theorem Balanced.writes (h : s.Balanced k l) (hc : s.Coherent) {e : Envelope}
    (hl : s.isLive e.generation = true) (he : e.event.isTerminal = false) :
    (s.apply e.event).Balanced k (l.report (s.transition (.event e)).report?.toList) := by
  have hcs := continues_apply s he
  have hb := hc.belongsTo
  -- Whatever is no report leaves the account alone.
  have hw (ha : s.Leaves (s.apply e.event)) (hn : (s.transition (.event e)).report? = none) :
      (s.apply e.event).Balanced k (l.report (s.transition (.event e)).report?.toList) := by
    rw [hn, Option.toList_none, l.report_nil]
    exact h.leaves ha (Nat.le_of_eq hcs.generation.symm) hcs.stream? hcs.baseUsage
  obtain ⟨generation, event⟩ := e
  obtain ⟨rfl, turn, ht⟩ := (s.isLive_iff generation).1 hl
  cases event with
  | ready runId => exact hw (leaves_of_eq rfl rfl) rfl
  | token text => exact hw (leaves_appendText hb text) rfl
  | toolsPending us => exact hw (leaves_applyPending hb us) rfl
  | tool kind u => exact hw (leaves_applyTool hb kind u) rfl
  | usage report source =>
    cases source with
    | main =>
      have hg : s.stream? = some s.generation := by
        rw [stream?, ht, Option.map_some, hc.generation turn ht]
      have hf : s.generation ∉ l.forgotten := h.notMem_forgotten _ hg
      have hr : (s.transition (.event ⟨s.generation, .usage report .main⟩)).report? =
          some (s.generation, report) := if_pos hl
      rw [hr, Option.toList_some]
      refine h.recordUsage hb (fun r hr => ?_) rfl ?_ fun g hg' => ?_
      · rcases List.mem_append.1 hr with hr | hr
        · exact h.reports_le r hr
        · exact List.mem_singleton.1 hr ▸ Nat.le_refl _
      · rw [hg, l.settled_report hf]
      · obtain rfl := Option.some.inj (hg.symm.trans hg')
        rw [l.running_report hf, k.sum_append, k.sum_singleton]
    | turnCheck => exact hw (leaves_of_eq rfl rfl) rfl
    | other => exact hw (leaves_of_eq rfl rfl) rfl
  | firstToken time =>
    rw [show (s.transition (.event ⟨s.generation, .firstToken time⟩)).report? = none from rfl,
      Option.toList_none, l.report_nil]
    refine h.recordUsage hb h.reports_le rfl rfl fun g _ => ?_
    rw [k.read_ofFirstToken]
    rfl
  | completed time => exact absurd he Bool.noConfusion
  | error message => exact absurd he Bool.noConfusion

/-! ## Ending a stream -/

/-- What becomes of the accounts of the finalized messages when a stream ends: its message
    takes all that the turn used, and without a message nothing is added. -/
theorem Balanced.sum_finalize (h : s.Balanced k l) (hl : s.transcript.Lasting) {u : Usage}
    (hu : k.read u = k.read s.baseUsage + k.read s.usage) :
    k.sum (accountsOf (s.transcript.finalize (some u)).2.finalized) =
      k.sum (accountsOf s.transcript.finalized) +
        if s.transcript.inProgress.isNone then 0 else (k.read u).val := by
  cases hp : s.transcript.inProgress with
  | none =>
    rw [finalize_of_none hp]
    rfl
  | some p =>
    have hn : k.read ((Transcript.InProgress.settle p (some u)).usage.getD .empty) = k.read u := by
      refine k.read_settle ?_
      have hn := h.noted
      rwa [notedUsage, current?, hp, ← hu] at hn
    have ha : (Transcript.InProgress.settle p (some u)).isAssistant = true := hl.isAssistant p hp
    rw [hl.finalize_of_some hp, accountsOf_append, k.sum_append, k.sum_accountsOf_singleton ha, hn]
    rfl

/-- A session without a turn is balanced if it has all that counts on finalized messages. -/
theorem balanced_of_noTurn (ht : s.turn = none) (hp : s.transcript.inProgress = none)
    (hr : ∀ r ∈ l.reports, r.1 ≤ s.generation) (hf : ∀ g ∈ l.forgotten, g ≤ s.generation)
    (hs : Count.ofNat (k.sum (accountsOf s.transcript.finalized)) =
      Count.ofNat (k.sum l.counted)) : s.Balanced k l := by
  have hg : s.stream? = none := by rw [stream?, ht]; rfl
  have hb : k.read s.baseUsage = 0 := by rw [baseUsage, ht]; exact k.read_empty
  refine ⟨hr, hf, ?_, ?_, ?_, fun _ => hb, ?_⟩
  · rw [hg]
    exact fun g hg => absurd hg (Option.not_mem_none g)
  · rw [hg, l.settled_none, hb, Count.add_zero, hs]
  · rw [hg]
    exact fun g hg => absurd hg (Option.not_mem_none g)
  · rw [notedUsage, current?, hp, Option.map_none, Option.bind_none, Option.getD_none, k.read_empty]
    exact Nat.zero_le _

/-- When a stream ends, all that it used is noted on its message. Without a message it is
    forgotten. -/
theorem Balanced.ended (h : s.Balanced k l) (hl : s.transcript.Lasting) {turn : ActiveTurn}
    (ht : s.turn = some turn) (hs : turn.generation = s.generation) {usage : Usage}
    (hu : k.read usage = k.read s.usage) (hn : s'.turn = none)
    (hx : s'.transcript = (s.transcript.finalize (some (turn.baseUsage.combine usage))).2)
    (hg : s.generation ≤ s'.generation) :
    s'.Balanced k
      (l.forget (if s.transcript.inProgress.isNone then [turn.generation] else [])) := by
  have hb : k.read s.baseUsage = k.read turn.baseUsage := by rw [baseUsage, ht]; rfl
  have hst : s.stream? = some turn.generation := by rw [stream?, ht]; rfl
  have hsum := h.sum_finalize hl (u := turn.baseUsage.combine usage)
    (by rw [k.read_combine, hb, hu])
  refine balanced_of_noTurn hn (by rw [hx, inProgress_finalize])
    (fun r hr => Nat.le_trans (h.reports_le r hr) hg) (fun g hg' => ?_) ?_
  · refine Nat.le_trans ?_ hg
    rcases List.mem_append.1 hg' with hg' | hg'
    · exact h.forgotten_le g hg'
    · split at hg'
      · exact List.mem_singleton.1 hg' ▸ Nat.le_of_eq hs
      · exact absurd hg' List.not_mem_nil
  · have hsettled := h.settled
    rw [hst] at hsettled
    rw [hx, hsum, Count.ofNat_add]
    cases hp : s.transcript.inProgress with
    | none =>
      -- Nothing was continued either, so everything else is all that counts.
      rw [Option.isNone_none, if_pos rfl, if_pos rfl, l.counted_forget, ← hsettled, h.base hp]
      rfl
    | some p =>
      rw [Option.isNone_some, if_neg Bool.noConfusion, if_neg Bool.noConfusion, l.forget_nil,
        l.sum_counted k (some turn.generation), Count.ofNat_add, ← hsettled,
        ← h.running _ hst, Count.ofNat_val, k.read_combine, hb, hu, Count.add_assoc]

/-! ## Opening a stream -/

/-- A session without a turn has all that counts on finalized messages. -/
theorem Balanced.sum_of_noTurn (h : s.Balanced k l) (ht : s.turn = none) :
    Count.ofNat (k.sum (accountsOf s.transcript.finalized)) = Count.ofNat (k.sum l.counted) := by
  have hs := h.settled
  rwa [baseUsage, stream?, ht, Option.map_none, Option.map_none, Option.getD_none, k.read_empty,
    Count.add_zero, l.settled_none] at hs

/-- A stream is opened. What the message that it continues had used goes with it, and what is
    left on finalized messages is everything else. -/
theorem Balanced.openStream {before : Session} (h : before.Balanced k l) (ht : before.turn = none)
    (hg : s.generation = before.generation) (hp : s.transcript.inProgress = none)
    (kind : TurnKind) (request : Request) {resumed : Option Message}
    (hs : Count.ofNat (k.sum (accountsOf s.transcript.finalized)) +
        k.read ((resumed.bind (·.usage)).getD .empty) =
      Count.ofNat (k.sum (accountsOf before.transcript.finalized))) :
    (s.openStream kind request resumed).Balanced k l := by
  -- The generation is a new one, so that the ledger has nothing of it.
  have hr : ∀ r ∈ l.reports, r.1 < s.generation + 1 := fun r hr =>
    Nat.lt_succ_of_le (hg ▸ h.reports_le r hr)
  have hf : ∀ g ∈ l.forgotten, g ≤ s.generation := hg ▸ h.forgotten_le
  have hx : (s.resumedTranscript (s.generation + 1) resumed).finalized = s.transcript.finalized ∧
      (s.resumedTranscript (s.generation + 1) resumed).current?.bind (·.usage) =
        resumed.bind (·.usage) := by
    cases resumed with
    | none => exact ⟨rfl, by rw [resumedTranscript, current?, hp]; rfl⟩
    | some m =>
      rw [resumedTranscript, resume_of_none hp]
      exact ⟨rfl, rfl⟩
  rw [openStream_eq]
  refine ⟨fun r h => Nat.le_of_lt (hr r h), fun g h => Nat.le_succ_of_le (hf g h), ?_, ?_, ?_, ?_, ?_⟩
  · intro g hg hgf
    obtain rfl := Option.some.inj hg
    exact Nat.not_succ_le_self _ (hf _ hgf)
  · change Count.ofNat (k.sum (accountsOf (s.resumedTranscript _ resumed).finalized)) +
      k.read ((resumed.bind (·.usage)).getD .empty) =
        Count.ofNat (k.sum (l.settled (some (s.generation + 1))))
    rw [hx.1, hs, h.sum_of_noTurn ht, l.settled_of_new k hr]
  · intro g hg
    obtain rfl := Option.some.inj hg
    rw [l.running_of_new hr]
    exact k.read_empty
  · cases resumed with
    | none => exact fun _ => k.read_empty
    | some m => exact fun hn => absurd hn (Option.some_ne_none _)
  · have hn : k.read
        (((s.resumedTranscript (s.generation + 1) resumed).current?.bind (·.usage)).getD .empty) =
        k.read ((resumed.bind (·.usage)).getD .empty) + k.read .empty := by
      rw [hx.2, k.read_empty, Count.add_zero]
    exact Nat.le_of_eq (congrArg Count.val hn)

theorem Balanced.beginTurn (h : s.Balanced k l) (hq : s.Quiet) (content : String) :
    (s.beginTurn content).Balanced k l := by
  have hs : k.sum (accountsOf (s.withInput content).transcript.finalized) =
      k.sum (accountsOf s.transcript.finalized) := by
    rw [withInput, push, accountsOf_append, k.sum_append, k.sum_accountsOf_user rfl]
    rfl
  rw [beginTurn_eq]
  refine h.openStream (s := s.withInput content) hq.turn rfl hq.inProgress _ _ ?_
  rw [hs, Option.bind_none, Option.getD_none, k.read_empty, Count.add_zero]

theorem Balanced.beginContinuation (h : s.Balanced k l) (hq : s.Quiet) (callId : String)
    (decision : Decision) (reason : Option String) :
    (s.beginContinuation callId decision reason).Balanced k l := by
  have hp : s.withoutResumed.transcript.inProgress = none := hq.withoutResumed.inProgress
  rw [beginContinuation_eq]
  refine h.openStream (s := s.withoutResumed) hq.turn rfl hp _ _ ?_
  rw [withoutResumed]
  rcases s.transcript.takeLastAssistant_cases with ⟨ht, _⟩ | ⟨before, m, hf, ha, ht⟩
  · rw [ht, Option.bind_none, Option.getD_none, k.read_empty, Count.add_zero]
  · -- What is noted on the message leaves the finalized ones with it.
    rw [ht, hf, accountsOf_append, k.sum_append, k.sum_accountsOf_singleton ha, Count.ofNat_add,
      Count.ofNat_val]
    rfl

/-- Stored messages bring their accounts into a session that has not begun. -/
theorem Balanced.hydrated (h : s.Balanced k l) (hc : s.canHydrate = true)
    (messages : List Message) :
    (s.hydrated messages).Balanced k (l.load (accountsOf messages)) := by
  obtain ⟨_, ht, hx⟩ := (s.canHydrate_iff).1 hc
  have hz : Count.ofNat (k.sum l.counted) = 0 := by
    rw [← h.sum_of_noTurn ht, hx]
    rfl
  refine balanced_of_noTurn ht rfl h.reports_le h.forgotten_le ?_
  rw [← Ledger.settled_none, l.sum_settled_load, l.settled_none, Count.ofNat_add, hz, Count.zero_add]
  exact congrArg (Count.ofNat <| k.sum ·) (accountsOf_settled messages)

/-! ## One operation after the other -/

/-- The streams that a log closes, if they are to be forgotten. -/
def forgottenIf (nothing : Bool) (log : List StreamMark) : List Nat :=
  if nothing then closed log else []

theorem forgottenIf_nil (nothing : Bool) : forgottenIf nothing [] = [] :=
  ite_self _

theorem forgottenIf_append (nothing : Bool) (log log' : List StreamMark) :
    forgottenIf nothing (log ++ log') = forgottenIf nothing log ++ forgottenIf nothing log' := by
  cases nothing with
  | false => rfl
  | true => exact closed_append log log'

/-- What is done from one session to another carries on the ledger of the one to a ledger of
    the other. The streams that are closed on the way are forgotten if there was nothing
    in progress. -/
def Books (k : Counter) (nothing : Bool) (s : Session) (l : Ledger) (s' : Session) : Prop :=
  ∃ as, s.Acts s' as ∧ s'.Balanced k (l.forget (forgottenIf nothing (as.filterMap mark?)))

/-- Operations follow each other, each with the ledger that the one before leaves. -/
theorem Books.bind {nothing : Bool} (h : Books k nothing s l s')
    (h' : ∀ l', s'.Balanced k l' → Books k nothing s' l' s'') : Books k nothing s l s'' := by
  obtain ⟨as, ha, hl⟩ := h
  obtain ⟨bs, hb, hl'⟩ := h' _ hl
  refine ⟨as ++ bs, ha.trans hb, ?_⟩
  rwa [List.filterMap_append, forgottenIf_append, l.forget_append]

/-- An operation that closes no stream keeps the ledger. -/
theorem Balanced.books (h : s'.Balanced k l) {nothing : Bool} {as : List Effect}
    (ha : s.Acts s' as) (hn : closed (as.filterMap mark?) = []) : Books k nothing s l s' := by
  refine ⟨as, ha, ?_⟩
  rwa [forgottenIf, hn, ite_self, l.forget_nil]

/-- An operation that only tells keeps the ledger, if what is accounted for and the turn are
    left alone. -/
theorem Balanced.books_of_tellings (h : s.Balanced k l) {nothing : Bool} (ha : s.Acts s' [])
    (hl : s.Leaves s') (hg : s.generation ≤ s'.generation) (ht : s'.turn = s.turn) :
    Books k nothing s l s' :=
  (h.leaves hl hg (by rw [stream?, ht, stream?]) (by rw [baseUsage, ht, baseUsage])).books ha rfl

section Books

variable {nothing : Bool}

/-- Interrupting closes the stream of the turn, if there is one. -/
theorem Balanced.books_interrupt (h : s.Balanced k l) (hl : s.transcript.Lasting)
    (hg : ∀ turn ∈ s.turn, turn.generation = s.generation) :
    Books k s.transcript.inProgress.isNone s l s.interrupt := by
  cases ht : s.turn with
  | none =>
    rw [interrupt_of_noTurn ht]
    exact h.books (acts_of_outbox_eq rfl) rfl
  | some turn =>
    refine ⟨s.interruptActs, acts_interrupt s, ?_⟩
    rw [marks_interruptActs ht, interrupt_eq ht]
    exact h.ended hl ht (hg turn ht) rfl rfl rfl (Nat.le_succ _)

theorem Balanced.books_beginTurn (h : s.Balanced k l) (hq : s.Quiet) (content : String) :
    Books k nothing s l (s.beginTurn content) :=
  (h.beginTurn hq content).books (acts_beginTurn s content) rfl

theorem Balanced.books_beginContinuation (h : s.Balanced k l) (hq : s.Quiet) (callId : String)
    (decision : Decision) (reason : Option String) :
    Books k nothing s l (s.beginContinuation callId decision reason) :=
  (h.beginContinuation hq callId decision reason).books (acts_beginContinuation s _ _ _) rfl

theorem Balanced.books_setPhase (h : s.Balanced k l) (p : Phase) :
    Books k nothing s l (s.setPhase p) := by
  have ha := acts_setPhase s p
  rw [setPhase_eq] at ha ⊢
  exact h.books_of_tellings ha (leaves_of_eq rfl rfl) (Nat.le_refl _) rfl

theorem Balanced.books_releaseImmediate (h : s.Balanced k l) :
    Books k nothing s l s.releaseImmediate :=
  h.books_of_tellings (acts_of_outbox_eq rfl) (leaves_of_eq rfl rfl) (Nat.le_refl _) rfl

theorem Balanced.books_withQueue (h : s.Balanced k l) (q : InputQueue) :
    Books k nothing s l (s.withQueue q) :=
  h.books_of_tellings (acts_of_tellings rfl) (leaves_of_eq rfl rfl) (Nat.le_refl _) rfl

theorem Balanced.books_drainQueue (h : s.Balanced k l) (hq : s.turn = none → s.Quiet) :
    Books k nothing s l s.drainQueue := by
  rcases s.drainQueue_cases with ⟨hd, _⟩ | ⟨entry, rest, hc, _, hd⟩
  · rw [hd]
    exact h.books (acts_of_outbox_eq rfl) rfl
  · rw [hd]
    have hr : Books k nothing s l (s.afterHead rest) := h.books_withQueue _
    exact hr.bind fun _ h => h.books_beginTurn ((hq hc.noTurn).congr (s.afterHead rest) rfl rfl) _

theorem Balanced.books_settle (h : s.Balanced k l) (hq : s.Quiet) (outcome : Outcome) :
    Books k nothing s l (s.settle outcome) := by
  have hr : Books k nothing s l (s.rested outcome) :=
    h.books_of_tellings (acts_of_tellings rfl) (leaves_of_eq rfl rfl) (Nat.le_refl _) rfl
  rw [settle_eq]
  exact hr.bind fun _ h => h.books_drainQueue fun _ => hq.congr _ rfl rfl

end Books

/-! ## Every input -/

/-- A completed stream leaves all that it used on its message. -/
theorem Balanced.books_complete (h : s.Balanced k l) (hc : s.Coherent) (hl : s.transcript.Lasting)
    {turn : ActiveTurn} (ht : s.turn = some turn) (time : Option Count) :
    Books k s.transcript.inProgress.isNone s
      (l.forget (forgottenIf s.transcript.inProgress.isNone [.ended turn.generation]))
      (s.complete time) := by
  have hq := hc.completed turn time
  have hu : k.read (s.completedUsage turn time) = k.read s.usage := by
    rw [completedUsage, k.read_merge, k.read_ofResponse, Count.add_zero]
  have hb : (s.completed turn time).Balanced k
      (l.forget (forgottenIf s.transcript.inProgress.isNone [.ended turn.generation])) :=
    h.ended hl ht (hc.generation turn ht) hu rfl rfl (Nat.le_refl _)
  rw [complete_eq ht]
  refine (hb.books (acts_of_tellings rfl) rfl).bind fun l h => ?_
  have hr : Books k s.transcript.inProgress.isNone (s.completed turn time) l
      ((s.completed turn time).releaseImmediate.settle .completed) :=
    h.books_releaseImmediate.bind fun _ h => h.books_settle hq.releaseImmediate _
  cases s.approvals.complete.1 with
  | next callId decision progress => exact h.books_beginContinuation hq callId decision none
  | finished progress => exact hr
  | idle => exact hr

theorem Balanced.books_fail (h : s.Balanced k l) (hc : s.Coherent) (hl : s.transcript.Lasting)
    {turn : ActiveTurn} (ht : s.turn = some turn) (message : String) :
    Books k s.transcript.inProgress.isNone s
      (l.forget (forgottenIf s.transcript.inProgress.isNone [.ended turn.generation]))
      (s.fail message) := by
  have hb : (s.failed turn message).Balanced k
      (l.forget (forgottenIf s.transcript.inProgress.isNone [.ended turn.generation])) :=
    h.ended hl ht (hc.generation turn ht) rfl rfl rfl (Nat.le_refl _)
  rw [fail_eq ht]
  exact (hb.books (acts_of_tellings rfl) rfl).bind fun _ h =>
    h.books_settle (hc.failed turn message) _

/-- The ledger with an input entered, before anything is done about it: what it loads, what
    it reports, and the stream that it ends. -/
def entered (s : Session) (l : Ledger) (i : Input) (r : Option (Except Error Reply)) : Ledger :=
  ((l.load (accountsOf (i.loaded r))).report (s.transition i).report?.toList).forget
    (forgottenIf s.transcript.inProgress.isNone (s.transition i).ended)

theorem entered_of_event (s : Session) (l : Ledger) (e : Envelope) :
    s.entered l (.event e) none = (l.report (s.transition (.event e)).report?.toList).forget
      (forgottenIf s.transcript.inProgress.isNone (s.transition (.event e)).ended) := by
  rw [entered, show accountsOf (Input.loaded (.event e) none) = [] from rfl, l.load_nil]

theorem entered_of_nothing {i : Input} {r : Option (Except Error Reply)} (hl : i.loaded r = [])
    (hr : (s.transition i).report? = none) (he : (s.transition i).ended = []) :
    s.entered l i r = l := by
  rw [entered, hl, hr, he, forgottenIf_nil, Ledger.forget_nil, Option.toList_none,
    Ledger.report_nil]
  exact l.load_nil

/-- An event of another stream reports nothing. -/
theorem report?_of_not_live {e : Envelope} (h : s.isLive e.generation = false) :
    (s.transition (.event e)).report? = none := by
  obtain ⟨generation, event⟩ := e
  cases event with
  | usage report source =>
    cases source with
    | main => exact if_neg fun hl => Bool.noConfusion (hl.symm.trans h)
    | turnCheck | other => rfl
  | _ => rfl

/-- Every way of taking an input carries on the ledger of a coherent session, once the input
    is entered. -/
theorem Balanced.reaction (h : s.Balanced k l) (hc : s.Coherent) (hl : s.transcript.Lasting)
    {i : Input} {r : Option (Except Error Reply)} (hr : s.Reaction i r s') :
    Books k s.transcript.inProgress.isNone s (s.entered l i r) s' := by
  have hq := hc.interrupt.1
  have hi := h.books_interrupt hl hc.generation
  cases hr with
  | @refuses c _ _ =>
    rw [entered_of_nothing (by cases c <;> rfl) rfl rfl]
    exact h.books (acts_of_outbox_eq rfl) rfl
  | ignores hi =>
    have he : s.entered l i r = l := by
      cases hi with
      | snapshot => exact entered_of_nothing rfl rfl rfl
      | hydrate _ => exact entered_of_nothing rfl rfl rfl
      | event hl =>
        exact entered_of_nothing rfl (report?_of_not_live hl) (ended_of_not_terminal (.inl hl))
    rw [he]
    exact h.books (acts_of_outbox_eq rfl) rfl
  | waits =>
    rw [entered_of_nothing rfl rfl rfl]
    exact h.books_of_tellings (acts_of_outbox_eq rfl) (leaves_of_eq rfl rfl) (Nat.le_refl _) rfl
  | writes hv he =>
    rw [entered_of_event, ended_of_not_terminal (.inr he), forgottenIf_nil, Ledger.forget_nil]
    exact (h.writes hc hv he).books (continues_apply s he).acts rfl
  | @completes generation time hv =>
    obtain ⟨turn, ht, he⟩ := ended_of_terminal (e := ⟨generation, .completed time⟩) hc hv rfl
    rw [entered_of_event, he, show (s.transition _).report? = none from rfl, Option.toList_none,
      l.report_nil]
    exact h.books_complete hc hl ht time
  | @fails generation message hv =>
    obtain ⟨turn, ht, he⟩ := ended_of_terminal (e := ⟨generation, .error message⟩) hc hv rfl
    rw [entered_of_event, he, show (s.transition _).report? = none from rfl, Option.toList_none,
      l.report_nil]
    exact h.books_fail hc hl ht message
  | starts _ hp _ =>
    rw [entered_of_nothing rfl rfl rfl]
    exact h.books_beginTurn (hc.quiet (hc.idle_iff.1 hp)) _
  | @queues content _ _ =>
    rw [entered_of_nothing rfl rfl rfl]
    have hw : Books k s.transcript.inProgress.isNone s l (s.withQueued content) :=
      h.books_of_tellings (acts_of_tellings rfl) (leaves_of_eq rfl rfl) (Nat.le_refl _) rfl
    exact hw.bind fun _ h => h.books_drainQueue fun ht => (hc.quiet ht).congr _ rfl rfl
  | restarts _ =>
    -- The stream of the turn is closed before another is opened, here and below.
    rw [entered_of_nothing rfl rfl rfl]
    exact (hi.bind fun _ h => h.books_releaseImmediate).bind fun _ h =>
      h.books_beginTurn hq.releaseImmediate _
  | @pulls _ entry before after _ _ _ _ =>
    rw [entered_of_nothing rfl rfl rfl]
    have hw := hc.congr (s.withQueue ⟨before ++ after, true⟩) rfl rfl rfl rfl rfl
    exact ((h.books_withQueue ⟨before ++ after, true⟩).bind fun _ h =>
      h.books_interrupt hl hw.generation).bind fun _ h => h.books_beginTurn hw.interrupt.1 _
  | removes _ _ _ =>
    rw [entered_of_nothing rfl rfl rfl]
    exact h.books_withQueue _
  | restsOn _ =>
    rw [entered_of_nothing rfl rfl rfl, abortApprovals_eq]
    exact h.books_of_tellings (acts_of_tellings rfl) (leaves_of_eq rfl rfl) (Nat.le_refl _) rfl
  | cancels ht =>
    rw [entered_of_nothing rfl rfl rfl]
    obtain ⟨turn, ht⟩ := Option.ne_none_iff_exists'.1 ht
    have hx : (s.releaseImmediate.setPhase .cancelling).transcript = s.transcript :=
      transcript_setPhase _ _
    have hg : ∀ turn ∈ (s.releaseImmediate.setPhase .cancelling).turn,
        turn.generation = (s.releaseImmediate.setPhase .cancelling).generation := by
      rw [setPhase_eq]
      exact hc.generation
    have hb : Books k s.transcript.inProgress.isNone s l
        (s.releaseImmediate.setPhase .cancelling) :=
      h.books_releaseImmediate.bind fun _ h => h.books_setPhase .cancelling
    have hi := hb.bind fun _ h => hx ▸ h.books_interrupt (hx ▸ hl) hg
    obtain ⟨hq, hn⟩ := quiet_cancelled ht hc.marked
    exact (hi.bind fun _ h => h.books_setPhase .idle).bind fun _ h =>
      h.books_drainQueue fun ht => (hq.setPhase_idle hn).quiet ht
  | decides _ =>
    rw [entered_of_nothing rfl rfl rfl]
    exact hi.bind fun _ h => h.books_beginContinuation hq _ _ _
  | @decidesAll decision _ rest _ _ =>
    rw [entered_of_nothing rfl rfl rfl]
    have hb (l : Ledger) (h : s.interrupt.Balanced k l) :
        Books k s.transcript.inProgress.isNone s.interrupt l
          (s.bulkBegun rest ⟨0, rest.length + 1, decision⟩) :=
      h.books_of_tellings ((acts_tell _ _).of_outbox_eq rfl) (leaves_of_eq rfl rfl)
        (Nat.le_refl _) rfl
    exact (hi.bind hb).bind fun _ h =>
      h.books_beginContinuation (hq.congr (s.bulkBegun rest _) rfl rfl) _ _ _
  | @hydrates messages hh =>
    rw [entered, show (s.transition (.command (.hydrate messages))).report?.toList = [] from rfl,
      show (s.transition (.command (.hydrate messages))).ended = [] from rfl, Ledger.report_nil,
      forgottenIf_nil, Ledger.forget_nil]
    exact (h.hydrated hh messages).books (acts_of_tellings rfl) rfl
  | shutsDown =>
    rw [entered_of_nothing rfl rfl rfl]
    exact hi.bind fun _ h => h.books_setPhase .idle

/-! ## Every run -/

theorem Balanced.react (h : s.Balanced k l) (hc : s.Coherent) (hl : s.transcript.Lasting)
    (i : Input) : (s.react i).2.Balanced k (l.enter (s.transition i)) := by
  obtain ⟨as, ha, hb⟩ := h.reaction hc hl (s.reaction i)
  obtain ⟨_, rfl⟩ := ha.effects
  have hf : (s.transition i).unnoted =
      forgottenIf s.transcript.inProgress.isNone (s.transition i).marks := rfl
  rw [marks_acts] at hb
  rw [Ledger.enter, hf, Transition.marks, forgottenIf_append, Ledger.forget_append]
  exact hb

/-- Every session is balanced with the ledger of its history. -/
theorem balanced_run (k : Counter) (conversationId : String) (interval now : Nat) (ids : Ids)
    (inputs : List Input) :
    ((start conversationId interval now ids).run inputs).Balanced k
      (.ofHistory ((start conversationId interval now ids).history inputs)) := by
  refine (history_induction (P := fun h s => (s.Coherent ∧ s.transcript.Lasting) ∧
    s.Balanced k (.ofHistory h)) ⟨⟨?_, ?_⟩, ?_⟩ fun h s i _ hs => ⟨⟨?_, ?_⟩, ?_⟩).2
  · exact coherent_start conversationId interval now ids
  · exact lasting_of_none rfl
  · exact balanced_start k conversationId interval now ids
  · exact hs.1.1.react i
  · exact (hs.1.1.carries hs.1.2 (s.reaction i)).lasting
  · rw [Ledger.ofHistory_concat]
    exact hs.2.react hs.1.1 hs.1.2 i

/-- Whatever the inputs, each counter of the usage of a session is the sum over the messages
    that were loaded and over every report that counted, up to the largest count, except for
    the reports of streams that ended while no message was in progress. So no input makes a
    counter less, unless it ends such a stream. -/
theorem session_usage_accounts_reports (conversationId : String) (interval now : Nat) (ids : Ids)
    (inputs : List Input) (k : Counter) :
    let fresh := start conversationId interval now ids
    let s := fresh.run inputs
    k.read s.snapshot.sessionUsage =
        Count.ofNat (k.sum (Ledger.ofHistory (fresh.history inputs)).counted) ∧
      ∀ i : Input, (s.transition i).unnoted = [] →
        (k.read s.snapshot.sessionUsage).val ≤
          (k.read (s.react i).2.snapshot.sessionUsage).val := by
  intro fresh s
  have h : s.Balanced k (.ofHistory (fresh.history inputs)) :=
    balanced_run k conversationId interval now ids inputs
  obtain ⟨hc, hl⟩ := lasting_run conversationId interval now ids inputs
  refine ⟨h.sessionUsage, fun i hi => ?_⟩
  have hle := Ledger.sum_counted_le_enter (.ofHistory (fresh.history inputs)) k hi
  calc (k.read s.sessionUsage).val
    _ = (Count.ofNat (k.sum (Ledger.ofHistory (fresh.history inputs)).counted)).val := by
      rw [h.sessionUsage]
    _ ≤ (Count.ofNat (k.sum ((Ledger.ofHistory (fresh.history inputs)).enter
          (s.transition i)).counted)).val := by
      rw [Count.val_ofNat, Count.val_ofNat]
      omega
    _ = (k.read (s.react i).2.sessionUsage).val := by
      rw [(h.react hc hl i).sessionUsage]

/-- A turn that wrote something is interrupted, and the next one fails: what both used is
    accounted for. -/
theorem session_usage_accounts_reports_failed :
    let fresh := start "c" 100 0 ⟨toString, 0⟩
    let inputs : List Input := [.command (.submit "first"), .event ⟨1, .token "x"⟩,
      .event ⟨1, .usage (.counters 10 5 15 0) .main⟩, .command (.startTurn "second"),
      .event ⟨3, .usage (.counters 2 1 3 0) .main⟩, .event ⟨3, .token "y"⟩]
    let lost : Input := .event ⟨3, .error "lost"⟩
    let s := fresh.run inputs
    Counter.total.read s.snapshot.sessionUsage = 18 ∧ (s.transition lost).unnoted = [] ∧
      (Counter.total.read s.snapshot.sessionUsage).val ≤
        (Counter.total.read (s.react lost).2.snapshot.sessionUsage).val := by
  intro fresh inputs lost s
  have hn : (s.transition lost).unnoted = [] := by decide
  obtain ⟨hs, hle⟩ := session_usage_accounts_reports "c" 100 0 ⟨toString, 0⟩ inputs .total
  exact ⟨hs.trans (by decide), hn, hle lost hn⟩

/-- A stream reports usage and fails before it has written anything. Its reports counted
    while it was running, and are lost. -/
theorem session_usage_drops_unnoted_reports :
    let fresh := start "c" 100 0 ⟨toString, 0⟩
    let inputs : List Input := [.command (.submit "hi"),
      .event ⟨1, .usage (.counters 10 5 15 0) .main⟩]
    let lost : Input := .event ⟨1, .error "lost"⟩
    let s := fresh.run inputs
    let l := Ledger.ofHistory (fresh.history (inputs ++ [lost]))
    Counter.total.read s.snapshot.sessionUsage = 15 ∧
      Counter.total.read (s.react lost).2.snapshot.sessionUsage = 0 ∧
      Counter.total.read (s.react lost).2.snapshot.sessionUsage ≠
        Count.ofNat (Counter.total.sum (l.loaded ++ l.reports.map (·.2))) := by
  decide

end Session

end Dialogue
