import Dialogue.Proofs.Session.Growth
import Dialogue.Proofs.Session.Waiting

/-!
# Decisions and the calls that they are about

A decision opens a stream that goes on with the last message, if that is the assistant's.
The calls that can be decided are those of the last message that is the assistant's, which
need not be the last one: a turn that failed before its answer began leaves its input
behind it.

If the message of a call is the last one, a decision on the call *reaches* it
(`Session.Reaches`): news of the call is merged into the segment that the call has. So
it is as long as a bulk decision goes on. If other input came after the message, nothing
is in progress once the call is decided, and such news is dropped.

* `Transcript.Lasting.last_finalize`, `resumes_beginContinuation`: the message that a stream
  ends with is the one that a continuation resumes;
* `Resumes.complete`, `Resumes.reaction`, `Resumes.run`: while a bulk decision goes on it
  stays in progress;
* `Resumes.reaches`: news of a call finds its segment in it;
* `decision_reaches_last_message`: so a decision reaches the call exactly if its message
  is the last one.
-/

namespace Dialogue

/-! ## The calls that can be decided -/

theorem mem_of_mem_noteSnapshot {known : List ToolExecution} {e k : ToolExecution}
    (h : k ∈ noteSnapshot known e) : k ∈ known ∨ k = e := by
  unfold noteSnapshot at h
  split at h
  · obtain ⟨k', hk', rfl⟩ := List.mem_map.1 h
    split
    · exact .inr rfl
    · exact .inl hk'
  · rcases List.mem_append.1 h with h | h
    · exact .inl h
    · exact .inr (List.mem_singleton.1 h)

/-- The last snapshots are among all. -/
theorem mem_of_mem_lastSnapshots {executions : List ToolExecution} {k : ToolExecution}
    (h : k ∈ lastSnapshots executions) : k ∈ executions := by
  -- The induction is on what is still to be noted, with any snapshots known before.
  suffices hs : ∀ known, k ∈ executions.foldl noteSnapshot known → k ∈ known ∨ k ∈ executions from
    (hs [] h).resolve_left List.not_mem_nil
  clear h
  induction executions with
  | nil => exact fun known h => .inl h
  | cons e executions ih =>
    intro known h
    rcases ih _ h with h | h
    · rcases mem_of_mem_noteSnapshot h with h | rfl
      · exact .inl h
      · exact .inr List.mem_cons_self
    · exact .inr (List.mem_cons_of_mem _ h)

/-- A call that can be decided has a segment in the message that the calls are taken from. -/
theorem call_of_approvable {current : Option Message} {finalized : List Message} {m : Message}
    (hm : approvalSource current finalized = some m) {callId : String}
    (h : callId ∈ (approvable current finalized).map (·.callId)) :
    ∃ e ∈ m.executions, e.callId = callId := by
  obtain ⟨e, he, rfl⟩ := List.mem_map.1 h
  rw [approvable, hm] at he
  exact ⟨e, mem_of_mem_lastSnapshots (List.mem_filter.1 he).1, rfl⟩

namespace Transcript

variable {t : Transcript} {m : Message}

/-- When a stream ends, the last message goes on as the last finalized one. -/
theorem Lasting.last_finalize (h : t.Lasting) (hm : t.messages.getLast? = some m)
    (usage : Option Usage) :
    ∃ before m', (t.finalize usage).2.finalized = before ++ [m'] ∧ m.Extends m' := by
  cases hp : t.inProgress with
  | none =>
    rw [messages_of_none hp] at hm
    obtain ⟨before, hf⟩ := List.getLast?_eq_some_iff.1 hm
    rw [finalize_of_none hp]
    exact ⟨before, m, hf, .refl m⟩
  | some p =>
    rw [messages_of_some hp, List.getLast?_concat] at hm
    obtain rfl := Option.some.inj hm
    rw [h.finalize_of_some hp]
    exact ⟨_, _, rfl, p.message.extends_marked _ _⟩

/-- The calls that can be decided are those of the assistant's last message. If that is not
    the last of all, nothing is in progress, and the last one is not the assistant's. -/
theorem source_cases (hm : approvalSource t.current? t.finalized = some m) (hl : t.Lasting) :
    m.isAssistant = true ∧ (t.messages.getLast? ≠ some m →
      t.inProgress = none ∧ ∀ last ∈ t.finalized.getLast?, last.isAssistant = false) := by
  cases hp : t.inProgress with
  | some p =>
    have hc : t.current? = some p.message := by
      rw [current?, hp]
      rfl
    rw [approvalSource, hc] at hm
    obtain rfl := Option.some.inj hm
    refine ⟨hl.isAssistant p hp, fun hn => absurd ?_ hn⟩
    rw [messages_of_some hp, List.getLast?_concat]
  | none =>
    have hc : t.current? = none := by
      rw [current?, hp]
      rfl
    rw [approvalSource, hc] at hm
    refine ⟨List.find?_some hm, fun hn => ⟨rfl, fun last hlast => ?_⟩⟩
    rw [messages_of_none hp] at hn
    -- The search looks at the last message first.
    obtain ⟨before, hf⟩ := List.getLast?_eq_some_iff.1 hlast
    cases ha : last.isAssistant with
    | false => rfl
    | true =>
      have hf : t.finalized.reverse.find? Message.isAssistant = some last := by
        rw [hf, List.reverse_concat, List.find?_cons_of_pos ha]
      exact absurd (hlast.trans (hf.symm.trans hm)) hn

end Transcript

namespace Session

open Transcript

variable {s s' : Session} {m : Message}

/-- The message in progress is the one given, gone on. -/
def Resumes (s : Session) (m : Message) : Prop :=
  ∃ p, s.transcript.inProgress = some p ∧ m.Extends p.message

/-- News of a call reaches the segment that the call has in a message: that message goes on
    as the one in progress, and the news is merged into the segment, in its place. -/
def Reaches (s : Session) (m : Message) (callId : String) : Prop :=
  ∃ (p : InProgress) (k : Nat) (id : String) (e e' : ToolExecution),
    s.transcript.inProgress = some p ∧ m.Extends p.message ∧
    m.segments[k]? = some (.tool id e) ∧ e.callId = callId ∧
    p.message.segments[k]? = some (.tool id e') ∧
    ∀ (kind : ToolEvent) (u : ToolUpdate), u.callId = callId →
      (s.handle ⟨s.generation, .tool kind u⟩).transcript = s.transcript.setCurrent
        { p.message with segments := p.message.segments.set k (.tool id (e'.merge u)) }

/-- News of calls is dropped: nothing is in progress, so that it has nowhere to go unless it
    may begin a message of its own. -/
def Drops (s : Session) : Prop :=
  s.transcript.inProgress = none ∧ ∀ (kind : ToolEvent) (u : ToolUpdate),
    kind.createsSegment = false → s.handle ⟨s.generation, .tool kind u⟩ = s

/-! ## Decisions -/

/-- An interrupted stream leaves its message last. -/
theorem Coherent.last_interrupt (h : s.Coherent) (hl : s.transcript.Lasting)
    (hm : s.transcript.messages.getLast? = some m) :
    ∃ before m', s.interrupt.transcript.finalized = before ++ [m'] ∧ m.Extends m' := by
  cases ht : s.turn with
  | none =>
    have hf := hl.last_finalize hm none
    rw [finalize_of_none (h.quiet ht).inProgress] at hf
    rw [interrupt_of_noTurn ht]
    exact hf
  | some turn =>
    rw [interrupt_eq ht]
    exact hl.last_finalize hm _

theorem transcript_interrupt (hp : s.transcript.inProgress = none) :
    s.interrupt.transcript = s.transcript := by
  cases ht : s.turn with
  | none => rw [interrupt_of_noTurn ht]
  | some turn =>
    rw [interrupt_eq ht, finalize_of_none hp]

/-- A continuation goes on with the last message, if that is the assistant's. -/
theorem resumes_beginContinuation (hp : s.transcript.inProgress = none) {before : List Message}
    {m' : Message} (hf : s.transcript.finalized = before ++ [m']) (hx : m.Extends m')
    (ha : m.isAssistant = true) (callId : String) (decision : Decision) (reason : Option String) :
    (s.beginContinuation callId decision reason).Resumes m := by
  have ha' : m'.isAssistant = true := hx.isAssistant.trans ha
  rcases s.transcript_beginContinuation_cases callId decision reason with
    ⟨_, hn⟩ | ⟨before', m'', hf', _, hx'⟩
  · have hn := hn m' (by rw [hf, List.getLast?_concat]; rfl)
    exact absurd (ha'.symm.trans hn) Bool.noConfusion
  · obtain ⟨_, hm⟩ := List.append_inj' (hf.symm.trans hf') rfl
    obtain rfl := List.singleton_inj.1 hm
    rw [Resumes, hx', resume_of_none (t := { s.transcript with finalized := before' }) hp]
    exact ⟨_, rfl, hx.trans (m'.extends_marked true m'.usage)⟩

/-- Otherwise nothing is in progress. -/
theorem inProgress_beginContinuation (hp : s.transcript.inProgress = none)
    (hn : ∀ last ∈ s.transcript.finalized.getLast?, last.isAssistant = false) (callId : String)
    (decision : Decision) (reason : Option String) :
    (s.beginContinuation callId decision reason).transcript.inProgress = none := by
  rcases s.transcript_beginContinuation_cases callId decision reason with
    ⟨hx, _⟩ | ⟨before, m, hf, ha, _⟩
  · rw [hx]
    exact hp
  · have hn := hn m (by rw [hf, List.getLast?_concat]; rfl)
    exact absurd (ha.symm.trans hn) Bool.noConfusion

/-! ## While a bulk decision goes on -/

theorem approvals_beginTurn (s : Session) (content : String) :
    (s.beginTurn content).approvals = s.approvals := by
  rw [beginTurn_eq, openStream_eq]
  rfl

theorem approvals_beginContinuation (s : Session) (callId : String) (decision : Decision)
    (reason : Option String) :
    (s.beginContinuation callId decision reason).approvals = s.approvals := by
  rw [beginContinuation_eq, openStream_eq]
  rfl

theorem approvals_drainQueue (s : Session) : s.drainQueue.approvals = s.approvals := by
  rcases s.drainQueue_cases with ⟨hd, _⟩ | ⟨entry, rest, _, _, hd⟩
  · rw [hd]
  · rw [hd, approvals_beginTurn]
    rfl

theorem approvals_settle (s : Session) (outcome : Outcome) :
    (s.settle outcome).approvals = s.approvals := by
  rw [settle_eq, approvals_drainQueue]
  rfl

theorem approvals_setPhase (s : Session) (p : Phase) : (s.setPhase p).approvals = s.approvals := by
  rw [setPhase_eq]

theorem Resumes.writes (h : s.Resumes m) (hw : s.Writes s') : s'.Resumes m := by
  obtain ⟨p, hp, hx⟩ := h
  cases hw with
  | nothing hx' _ =>
    rw [Resumes, hx']
    exact ⟨p, hp, hx⟩
  | notes hx' _ _ =>
    rw [Resumes, hx', noted_of_some hp, setCurrent_of_some hp]
    exact ⟨_, rfl, hx.trans (p.message.extends_marked _ _)⟩
  | goesOn hp' hm _ hx' _ =>
    obtain rfl := Option.some.inj (hp.symm.trans hp')
    rw [Resumes, hx', setCurrent_of_some hp]
    exact ⟨_, rfl, hx.trans hm⟩
  | begins hp' _ _ _ _ _ => exact absurd (hp.symm.trans hp') (Option.some_ne_none p)

/-- When a call is done, its message is finalized, and taken back at once for the next one. -/
theorem Resumes.complete (h : s.Resumes m) (hl : s.transcript.Lasting) {turn : ActiveTurn}
    (ht : s.turn = some turn) {time : Option Count}
    (hb : (s.complete time).approvals.progress ≠ none) : (s.complete time).Resumes m := by
  obtain ⟨p, hp, hx⟩ := h
  have hlast : s.transcript.messages.getLast? = some p.message := by
    rw [messages_of_some hp, List.getLast?_concat]
  obtain ⟨before, m', hf, hx'⟩ := hl.last_finalize hlast
    (some (turn.baseUsage.combine (s.completedUsage turn time)))
  have ha : m.isAssistant = true := hx.isAssistant.symm.trans (hl.isAssistant p hp)
  rw [complete_eq ht] at hb ⊢
  cases hs : s.approvals.complete.1 with
  | next callId decision progress =>
    exact resumes_beginContinuation (s := s.completed turn time) (inProgress_finalize _ _) hf
      (hx.trans hx') ha _ _ _
  | finished progress =>
    simp only [hs, approvals_settle] at hb
    exact absurd (progress_of_finished hs) hb
  | idle =>
    simp only [hs, approvals_settle] at hb
    exact absurd (progress_of_idle hs) hb

/-- While a bulk decision goes on, its message stays the one in progress: nothing but its own
    calls is served, and each goes on where the one before it ended. -/
theorem Resumes.reaction (h : s.Resumes m) (hc : s.Coherent) (hl : s.transcript.Lasting)
    {i : Input} {r : Option (Except Error Reply)} (hr : s.Reaction i r s')
    (hb : s.approvals.progress ≠ none) (hb' : s'.approvals.progress ≠ none) : s'.Resumes m := by
  have hphase : s.phase = .drainingApprovals := hc.draining_iff.2 hb
  have hne : s.phase ≠ .idle := by
    rw [hphase]
    exact Phase.noConfusion
  have hi : s.interrupt.approvals.progress = none := hc.interrupt.2
  -- What opens another stream, or needs an idle session, contradicts one of the two.
  cases hr with
  | refuses _ => exact h
  | ignores _ => exact h
  | waits => exact h
  | writes _ he => exact h.writes (writes_apply hc.belongsTo he)
  | completes hlive =>
    obtain ⟨_, turn, ht⟩ := (s.isLive_iff _).1 hlive
    exact h.complete hl ht hb'
  | fails hlive =>
    -- With any other end of the stream the bulk decision is over.
    obtain ⟨_, turn, ht⟩ := (s.isLive_iff _).1 hlive
    rw [fail_eq ht, approvals_settle] at hb'
    exact absurd rfl hb'
  | starts _ hp' _ => exact absurd hp' hne
  | @queues content _ _ =>
    rw [drainQueue_withQueued hne]
    exact h
  | restarts _ =>
    rw [approvals_beginTurn] at hb'
    exact absurd hi hb'
  | @pulls _ _ before after _ _ _ _ =>
    have hw := hc.congr (s.withQueue ⟨before ++ after, true⟩) rfl rfl rfl rfl rfl
    rw [approvals_beginTurn] at hb'
    exact absurd hw.interrupt.2 hb'
  | removes _ _ _ => exact h
  | restsOn ht => exact absurd (hc.idle_iff.2 ht) hne
  | cancels ht =>
    obtain ⟨turn, ht⟩ := Option.ne_none_iff_exists'.1 ht
    rw [approvals_drainQueue, approvals_setPhase] at hb'
    exact absurd (quiet_cancelled ht hc.marked).2 hb'
  | decides _ =>
    rw [approvals_beginContinuation] at hb'
    exact absurd hi hb'
  | decidesAll hn _ => exact absurd hn hb
  | hydrates hh => exact absurd (s.canHydrate_iff.1 hh).1 hne
  | shutsDown =>
    rw [approvals_setPhase] at hb'
    exact absurd hi hb'

/-- So it stays after any inputs that do not end the bulk decision. -/
theorem Resumes.run (h : s.Resumes m) (hc : s.Coherent) (hl : s.transcript.Lasting)
    {inputs : List Input} (hb : ∀ past, past <+: inputs → (s.run past).approvals.progress ≠ none) :
    (s.run inputs).Resumes m := by
  induction inputs generalizing s with
  | nil => exact h
  | cons i inputs ih =>
    have hn := hb [] (List.nil_prefix)
    have hn' := hb [i] (List.cons_prefix_cons.2 ⟨rfl, List.nil_prefix⟩)
    exact ih (h.reaction hc hl (s.reaction i) hn hn') (hc.react i)
      (hc.carries hl (s.reaction i)).lasting fun past hp => hb (i :: past)
        (List.cons_prefix_cons.2 ⟨rfl, hp⟩)

/-! ## News of a call -/

/-- News that is merged replaces the message in progress, whatever it says. -/
theorem transcript_handle_tool (hc : s.Coherent) {p : InProgress}
    (hp : s.transcript.inProgress = some p) {u : ToolUpdate} {segments : List Segment}
    (hm : Segment.mergeCall? u p.message.segments = some segments) (kind : ToolEvent) :
    (s.handle ⟨s.generation, .tool kind u⟩).transcript =
      s.transcript.setCurrent { p.message with segments } := by
  have ht : s.turn ≠ none := hc.turn_ne (by rw [hp]; exact Option.some_ne_none p)
  have hlive : s.isLive s.generation = true :=
    (s.isLive_iff _).2 ⟨rfl, Option.ne_none_iff_exists'.1 ht⟩
  have hu (create : Bool) :
      p.message.applyUpdate u create = (.merged, { p.message with segments }) := by
    rw [Message.applyUpdate, hm]
  have hcur : s.transcript.currentOf? s.generation = some p.message := by
    rw [hc.belongsTo.currentOf?, current?, hp]
    rfl
  have ha : s.applyTool kind u = s.updateCurrent { p.message with segments } := by
    rw [applyTool]
    -- Whether the news may begin a segment or not, it finds one.
    split
    · simp only [ensureCurrent_of_some hc.belongsTo hp, hu]
      rfl
    · simp only [hcur, hu]
      rfl
  rw [handle, if_pos hlive, apply, ha, transcript_updateCurrent]

/-- News of a call of the message in progress finds its segment. -/
theorem Resumes.reaches (h : s.Resumes m) (hc : s.Coherent) {callId : String}
    (hcall : ∃ e ∈ m.executions, e.callId = callId) : s.Reaches m callId := by
  obtain ⟨p, hp, hx⟩ := h
  obtain ⟨k, id, e, e', hk, he, hk', hm⟩ := Segment.mergeCall?_of_grows hx.segments hcall
  exact ⟨p, k, id, e, e', hp, hx, hk, he, hk', fun kind u hu =>
    transcript_handle_tool hc hp (hm u hu) kind⟩

/-- With nothing in progress, news that may not begin a message is dropped. -/
theorem drops_of_inProgress (h : s.transcript.inProgress = none) : s.Drops := by
  refine ⟨h, fun kind u hk => ?_⟩
  rw [handle]
  split
  · rw [apply, applyTool, if_neg (by rw [hk]; exact Bool.noConfusion), currentOf?, h]
  · rfl

/-! ## Both kinds of decisions -/

theorem decideSingle_of_not_blank {callId : String} (hb : Text.isBlank callId = false)
    (approve : Bool) (reason : Option String) :
    (s.decideSingle callId approve reason).2 =
      s.interrupt.beginContinuation callId (.ofApprove approve) reason := by
  rw [decideSingle, if_neg (by rw [hb]; exact Bool.noConfusion)]

theorem decideBulk_of_approvable (hp : s.approvals.progress = none) {first : String}
    {rest : List String} (ha : s.approvable.map (·.callId) = first :: rest) (decision : Decision) :
    (s.decideBulk decision).2 =
      (s.bulkBegun rest ⟨0, rest.length + 1, decision⟩).beginContinuation first decision none := by
  rw [decideBulk, Coordinator.isDraining, hp, Option.isSome_none, if_neg Bool.noConfusion]
  simp only [ha]
  rfl

/-- Whatever the inputs, a call that is decided is reached if its message is the last one: news
    of it is merged into its segment, also while a bulk decision that it belongs to goes on.
    If other input came after the message, news of the call is dropped. -/
theorem decision_reaches_last_message (conversationId : String) (interval now : Nat) (ids : Ids)
    (inputs : List Input) {m : Message} {callId : String} :
    let s := (start conversationId interval now ids).run inputs
    approvalSource s.transcript.current? s.transcript.finalized = some m →
    callId ∈ s.approvable.map (·.callId) →
    (s.transcript.messages.getLast? = some m →
      (∀ approve reason, Text.isBlank callId = false →
        (s.decideSingle callId approve reason).2.Reaches m callId) ∧
      (∀ decision more, s.approvals.progress = none →
        (∀ past, past <+: more →
          ((s.decideBulk decision).2.run past).approvals.progress ≠ none) →
        ((s.decideBulk decision).2.run more).Reaches m callId)) ∧
    (s.transcript.messages.getLast? ≠ some m →
      (∀ approve reason, Text.isBlank callId = false →
        (s.decideSingle callId approve reason).2.Drops) ∧
      (∀ decision, s.approvals.progress = none → (s.decideBulk decision).2.Drops)) := by
  intro s hm hcall
  obtain ⟨hc, hl⟩ := lasting_run conversationId interval now ids inputs
  have hq : s.interrupt.transcript.inProgress = none := hc.interrupt.1.inProgress
  have he := call_of_approvable hm hcall
  obtain ⟨ha, hn⟩ := source_cases hm hl
  obtain ⟨first, rest, hids⟩ := List.exists_cons_of_ne_nil (List.ne_nil_of_mem hcall)
  refine ⟨fun hlast => ?_, fun hlast => ?_⟩
  · -- The last message goes on, whether it was in progress or not.
    obtain ⟨before, m', hf, hx⟩ := hc.last_interrupt hl hlast
    refine ⟨fun approve reason hb => ?_, fun decision more hp hb => ?_⟩
    · have hr := resumes_beginContinuation hq hf hx ha callId (.ofApprove approve) reason
      rw [decideSingle_of_not_blank hb]
      exact hr.reaches (hc.interrupt.1.beginContinuation _ _ _) he
    · have hr : (s.decideBulk decision).2.Resumes m := by
        rw [decideBulk_of_approvable hp hids]
        exact resumes_beginContinuation (s := s.bulkBegun rest _) hq hf hx ha _ _ _
      have hc' : (s.decideBulk decision).2.Coherent := hc.react (.command (.decideBulk decision))
      have hl' := (hc.carries hl (s.reaction (.command (.decideBulk decision)))).lasting
      exact (hr.run hc' hl' hb).reaches (hc'.run more) he
  · obtain ⟨hp, hlast⟩ := hn hlast
    have hx : s.interrupt.transcript = s.transcript := transcript_interrupt hp
    rw [← hx] at hlast
    refine ⟨fun approve reason hb => ?_, fun decision hp => ?_⟩
    · rw [decideSingle_of_not_blank hb]
      exact drops_of_inProgress (inProgress_beginContinuation hq hlast _ _ _)
    · rw [decideBulk_of_approvable hp hids]
      exact drops_of_inProgress
        (inProgress_beginContinuation (s := s.bulkBegun rest _) hq hlast _ _ _)

/-- A decision on two calls reaches the second one when the first is done. -/
theorem decision_reaches_last_message_bulk :
    let call (id : String) : ToolUpdate := { callId := id, requiresApproval := some true }
    let inputs : List Input := [.command (.submit "go"),
      .event ⟨1, .toolsPending [call "c1", call "c2"]⟩, .event ⟨1, .completed none⟩]
    let s := (start "c" 100 0 ⟨toString, 0⟩).run inputs
    ∃ m, approvalSource s.transcript.current? s.transcript.finalized = some m ∧
      s.approvable.map (·.callId) = ["c1", "c2"] ∧ s.transcript.messages.getLast? = some m ∧
      s.approvals.progress = none ∧
      ((s.decideBulk .approve).2.run [.event ⟨2, .completed none⟩]).Reaches m "c2" := by
  intro call inputs s
  obtain ⟨m, hm⟩ := Option.isSome_iff_exists.1
    (show (approvalSource s.transcript.current? s.transcript.finalized).isSome = true by decide)
  have hlast : s.transcript.messages.getLast? = some m :=
    (show _ = approvalSource s.transcript.current? s.transcript.finalized by decide).trans hm
  have hids : s.approvable.map (·.callId) = ["c1", "c2"] := by decide
  have hcall : "c2" ∈ s.approvable.map (·.callId) := by rw [hids]; decide
  have hp : s.approvals.progress = none := by decide
  refine ⟨m, hm, hids, hlast, hp, ?_⟩
  refine ((decision_reaches_last_message "c" 100 0 ⟨toString, 0⟩ inputs hm hcall).1 hlast).2
    .approve [.event ⟨2, .completed none⟩] hp fun past hpast => ?_
  -- The decision goes on before and after its first call is done.
  rcases past with _ | ⟨i, past⟩
  · decide
  · obtain ⟨rfl, hnil⟩ := List.cons_prefix_cons.1 hpast
    obtain rfl := List.prefix_nil.1 hnil
    decide

/-- A turn that fails before its answer begins leaves its input behind the message of a call.
    The call can still be decided, but that it was approved is dropped. -/
theorem decision_misses_earlier_message :
    let call : ToolUpdate := { callId := "c1", requiresApproval := some true }
    let inputs : List Input := [.command (.submit "go"), .event ⟨1, .toolsPending [call]⟩,
      .event ⟨1, .completed none⟩, .command (.submit "more"), .event ⟨2, .error "lost"⟩]
    let s := (start "c" 100 0 ⟨toString, 0⟩).run inputs
    let s' := (s.decideSingle "c1" true none).2
    s.approvable.map (·.callId) = ["c1"] ∧ s'.transcript.inProgress = none ∧
      (s'.handle ⟨s'.generation, .tool .approved (.withStatus "c1" .approved)⟩).transcript =
        s'.transcript := by
  decide

end Session

end Dialogue
