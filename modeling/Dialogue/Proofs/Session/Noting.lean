import Dialogue.Proofs.Session.Accounting
import Dialogue.Proofs.Session.Answering
import Dialogue.Proofs.Session.LastTick
import Dialogue.Proofs.Session.Proceeding
import Dialogue.Proofs.Usage.Combining
import Mathlib.Data.List.TakeWhile

/-!
# What is noted on the message in progress

What a stream has used is noted on its message with every report. A message that was taken back
has what it used before from the start. A new message begins with the first event that writes
something, without an account, and whatever was reported before it began is noted only with the
next report.

* `reportsSince`: what is reported of a stream once its message has begun;
* `account?_apply`, `account?_report`: what an event does to what is noted;
* `Notes`, `Notes.apply`: so what is noted is known from the events of the stream;
* `message_mirrors_account`: it is the account, but for reports that came before a new message.
-/

namespace Dialogue

namespace TurnEvent

/-- Whether an event begins the message of its stream, if there is none yet. -/
def begins : TurnEvent → Bool
  | .token words => words != ""
  | .toolsPending us => !us.isEmpty
  | .tool kind _ => kind.createsSegment
  | _ => false

/-- What begins a message is no report. -/
theorem delta?_of_begins {e : TurnEvent} (h : e.begins = true) : e.delta? = none := by
  cases e with
  | token words | toolsPending us | tool kind u => rfl
  | _ => exact Bool.noConfusion h

theorem begins_of_isTerminal {e : TurnEvent} (h : e.isTerminal = true) : e.begins = false := by
  cases e with
  | completed time | error message => rfl
  | _ => exact Bool.noConfusion h

end TurnEvent

/-- What the events of a stream report once its message has begun. -/
def reportsSince (es : List TurnEvent) : List Usage :=
  (es.dropWhile (!·.begins)).filterMap TurnEvent.delta?

theorem reportsSince_of_begun {es : List TurnEvent} (h : es.any TurnEvent.begins = true)
    (e : TurnEvent) : reportsSince (es ++ [e]) = reportsSince es ++ e.delta?.toList := by
  have hd : (es.dropWhile (!·.begins)).isEmpty = false := by
    rw [List.isEmpty_eq_false_iff, ne_eq, List.dropWhile_eq_nil_iff]
    obtain ⟨e', he', hb⟩ := List.any_eq_true.1 h
    exact fun hn => Bool.noConfusion ((hn e' he').symm.trans (congrArg not hb))
  rw [reportsSince, List.dropWhile_append, if_neg (by rw [hd]; exact Bool.noConfusion),
    List.filterMap_append, List.filterMap_cons, List.filterMap_nil]
  cases e.delta? <;> rfl

/-- The event that begins the message reports nothing, and what comes before does not count. -/
theorem reportsSince_of_unbegun {es : List TurnEvent} (h : es.any TurnEvent.begins = false)
    (e : TurnEvent) : reportsSince (es ++ [e]) = [] := by
  have hd : es.dropWhile (!·.begins) = [] := List.dropWhile_eq_nil_iff.2 fun e' he' =>
    congrArg not (Bool.of_not_eq_true (List.any_eq_false.1 h e' he'))
  rw [reportsSince, List.dropWhile_append, hd, List.isEmpty_nil, if_pos rfl]
  cases hb : e.begins with
  | false =>
    rw [List.dropWhile_cons_of_pos (by rw [hb]; rfl)]
    rfl
  | true =>
    rw [List.dropWhile_cons_of_neg (by rw [hb]; exact Bool.noConfusion),
      List.filterMap_cons_none (TurnEvent.delta?_of_begins hb)]
    rfl

theorem any_begins_concat (es : List TurnEvent) (e : TurnEvent) :
    (es ++ [e]).any TurnEvent.begins = (es.any TurnEvent.begins || e.begins) := by
  rw [List.any_append, List.any_cons, List.any_nil, Bool.or_false]

namespace Session

open Effect Transcript

variable {s s' : Session} {h : List Transition} {es : List TurnEvent} {e : TurnEvent}

/-! ## What an event does to what is noted -/

/-- Whether the message in progress was taken back, and what is noted on it. -/
def account? (s : Session) : Option (Bool × Option Usage) :=
  s.transcript.inProgress.map fun p => (p.resumed, p.message.usage)

/-- Writing to the message under way leaves what is noted on it. -/
theorem account?_of_underWay {m : Message} (hm : m.usage = s.underWay.message.usage)
    (hx : s'.transcript.inProgress = some { s.underWay with message := m }) :
    s'.account? = some (s.account?.getD (false, none)) := by
  rw [account?, hx, Option.map_some, hm, account?, underWay]
  cases s.transcript.inProgress <;> rfl

theorem account?_updateEnsured (hb : s.transcript.BelongsTo s.generation) {m : Message}
    (hm : m.usage = s.ensureCurrent.1.usage) :
    (s.ensureCurrent.2.updateCurrent m).account? = some (s.account?.getD (false, none)) := by
  obtain ⟨hu, hx⟩ := transcript_updateEnsured hb s.ensureCurrent.2.ids m
  exact account?_of_underWay (hm.trans (congrArg Message.usage hu)) (congrArg inProgress hx)

theorem account?_applyTool_of_not_creates {kind : ToolEvent} (hk : kind.createsSegment = false)
    (u : ToolUpdate) : (s.applyTool kind u).account? = s.account? := by
  rw [applyTool, if_neg (by rw [hk]; exact Bool.noConfusion)]
  split
  · rfl
  · next m hm =>
    obtain ⟨p, hp, rfl⟩ := inProgress_of_currentOf? hm
    simp only
    split
    · rw [account?, transcript_updateCurrent, setCurrent_of_some hp, account?, hp]
      exact congrArg (fun usage => some (p.resumed, usage)) (p.message.usage_applyUpdate u false)
    · rfl

/-- An event that is no report leaves what is noted, and a message that begins has nothing noted
    on it. -/
theorem account?_apply (hb : s.transcript.BelongsTo s.generation) (he : e.isTerminal = false)
    (hd : e.delta? = none) :
    (s.apply e).account? =
      if e.begins then some (s.account?.getD (false, none)) else s.account? := by
  cases e with
  | ready runId => rfl
  | token words =>
    by_cases hw : words = ""
    · subst hw
      rfl
    · obtain ⟨ids, hx⟩ := transcript_appendText hb hw
      rw [if_pos (show (TurnEvent.token words).begins = true from bne_iff_ne.2 hw)]
      exact account?_of_underWay (Message.usage_appendText _ _ words) (congrArg inProgress hx)
  | toolsPending us =>
    cases us with
    | nil => rfl
    | cons u us =>
      obtain ⟨hc, _⟩ := s.ensureCurrent.1.changed_applyPending (List.cons_ne_nil u us)
      rw [if_pos (show (TurnEvent.toolsPending (u :: us)).begins = true from rfl), apply,
        applyPending, if_neg (mt List.isEmpty_iff.1 (List.cons_ne_nil u us))]
      simp only [hc, if_true]
      exact account?_updateEnsured hb (Message.usage_applyPending _ _)
  | tool kind u =>
    cases hk : kind.createsSegment with
    | false =>
      rw [if_neg (by rw [TurnEvent.begins, hk]; exact Bool.noConfusion)]
      exact account?_applyTool_of_not_creates hk u
    | true =>
      have hc := s.ensureCurrent.1.changed_applyUpdate u
      rw [if_pos (show (TurnEvent.tool kind u).begins = true from hk), apply, applyTool, if_pos hk]
      simp only [hc, if_true]
      exact account?_updateEnsured hb (Message.usage_applyUpdate _ u true)
  | usage report source =>
    cases source with
    | main => cases hd
    | turnCheck | other => rfl
  | firstToken time => cases hd
  | completed time | error message => exact Bool.noConfusion he

/-- A report is accounted, and noted on the message if there is one. -/
theorem account?_report (hb : s.transcript.BelongsTo s.generation) {delta : Usage}
    (hd : e.delta? = some delta) : (s.apply e).account? =
      s.account?.map fun a => (a.1, some (s.apply e).inFlightUsage) := by
  have hr : s.apply e = s.recordUsage delta := by
    cases e with
    | usage report source =>
      cases source with
      | main => exact congrArg s.recordUsage (Option.some.inj hd)
      | turnCheck | other => exact nomatch hd
    | firstToken time => exact congrArg s.recordUsage (Option.some.inj hd)
    | _ => exact nomatch hd
  have hx := (congrArg Session.transcript (recordUsage_eq s delta)).trans
    (accountedTranscript_eq hb delta)
  have hf : (s.recordUsage delta).inFlightUsage =
      inFlightUsage { s with usage := s.usage.merge delta } := by
    rw [recordUsage_eq]
    rfl
  rw [hr, account?, hx, noted, Option.map_map, account?, Option.map_map, hf]
  rfl

/-! ## What is noted in a stream -/

/-- What is noted on the message in progress, given the events of the stream. On a message that
    was taken back it is the account. A new message has no account to start from, and the account
    is noted on it once something is reported. -/
inductive Notes (es : List TurnEvent) (s : Session) : Prop
  | resumed {usage : Option Usage} : s.account? = some (true, usage) →
      usage.getD .empty = s.inFlightUsage → Notes es s
  | unbegun : s.account? = none → es.any TurnEvent.begins = false → s.baseUsage = .empty →
      Notes es s
  | begun : s.account? =
        some (false, if reportsSince es = [] then none else some s.inFlightUsage) →
      es.any TurnEvent.begins = true → s.baseUsage = .empty → Notes es s

theorem Notes.congr (hn : Notes es s) (ha : s'.account? = s.account?)
    (hb : s'.baseUsage = s.baseUsage) (hu : s'.usage = s.usage) : Notes es s' := by
  have hf : s'.inFlightUsage = s.inFlightUsage := congrArg₂ Usage.combine hb hu
  cases hn with
  | resumed ha' hu' => exact .resumed (ha.trans ha') (hu'.trans hf.symm)
  | unbegun ha' hn hb' => exact .unbegun (ha.trans ha') hn (hb.trans hb')
  | begun ha' hs hb' => exact .begun (by rw [ha, ha', hf]) hs (hb.trans hb')

/-- An event that neither begins the message nor reports anything makes no difference. -/
theorem Notes.skips (hn : Notes es s) (hb : e.begins = false) (hd : e.delta? = none) :
    Notes (es ++ [e]) s := by
  have ha := any_begins_concat es e
  rw [hb, Bool.or_false] at ha
  cases hn with
  | resumed ha' hu => exact .resumed ha' hu
  | unbegun ha' hn hb' => exact .unbegun ha' (ha.trans hn) hb'
  | begun ha' hs hb' =>
    refine .begun ?_ (ha.trans hs) hb'
    rw [reportsSince_of_begun hs, hd, Option.toList_none, List.append_nil, ha']

/-- A report is noted on the message, if there is one. -/
theorem Notes.report (hn : Notes es s) (hb : s.transcript.BelongsTo s.generation)
    (he : e.isTerminal = false) {delta : Usage} (hd : e.delta? = some delta) :
    Notes (es ++ [e]) (s.apply e) := by
  have ha := account?_report hb hd
  have hbase := (continues_apply s he).baseUsage
  have hany : (es ++ [e]).any TurnEvent.begins = es.any TurnEvent.begins := by
    have hbe : e.begins = false := Bool.of_not_eq_true fun h =>
      Option.some_ne_none delta (hd.symm.trans (TurnEvent.delta?_of_begins h))
    rw [any_begins_concat, hbe, Bool.or_false]
  cases hn with
  | resumed ha' _ => exact .resumed (ha.trans (congrArg _ ha')) rfl
  | unbegun ha' hn hb' =>
    exact .unbegun (ha.trans (congrArg _ ha')) (hany.trans hn) (hbase.trans hb')
  | begun ha' hs hb' =>
    have hr : reportsSince (es ++ [e]) ≠ [] := by
      rw [reportsSince_of_begun hs, hd]
      exact List.append_ne_nil_of_right_ne_nil _ (List.cons_ne_nil _ _)
    refine .begun ?_ (hany.trans hs) (hbase.trans hb')
    rw [ha, ha', if_neg hr]
    rfl

/-- Any other event leaves what is noted, and may begin the message. -/
theorem Notes.unreported (hn : Notes es s) (hb : s.transcript.BelongsTo s.generation)
    (he : e.isTerminal = false) (hd : e.delta? = none) : Notes (es ++ [e]) (s.apply e) := by
  have ha := account?_apply hb he hd
  have hbase := (continues_apply s he).baseUsage
  have hu : (s.apply e).usage = s.usage := by
    rw [usage_apply s he, hd]
    rfl
  cases hbe : e.begins with
  | false =>
    rw [hbe, if_neg Bool.noConfusion] at ha
    exact (hn.congr ha hbase hu).skips hbe hd
  | true =>
    have hf : (s.apply e).inFlightUsage = s.inFlightUsage := congrArg₂ Usage.combine hbase hu
    have hany : (es ++ [e]).any TurnEvent.begins = true := by
      rw [any_begins_concat, hbe, Bool.or_true]
    rw [hbe, if_pos rfl] at ha
    cases hn with
    | resumed ha' hu' => exact .resumed (by rw [ha, ha']; rfl) (hu'.trans hf.symm)
    | unbegun ha' hn hb' =>
      -- The message begins, with nothing noted on it.
      refine .begun ?_ hany (hbase.trans hb')
      rw [ha, ha', reportsSince_of_unbegun hn, if_pos rfl]
      rfl
    | begun ha' hs hb' =>
      refine .begun ?_ hany (hbase.trans hb')
      rw [ha, ha', reportsSince_of_begun hs, hd, Option.toList_none, List.append_nil, hf]
      rfl

theorem Notes.apply (hn : Notes es s) (hb : s.transcript.BelongsTo s.generation)
    (he : e.isTerminal = false) : Notes (es ++ [e]) (s.apply e) := by
  cases hd : e.delta? with
  | none => exact hn.unreported hb he hd
  | some delta => exact hn.report hb he hd

/-- When a stream is opened, the message that it continues has what it used before. -/
theorem Quiet.notes_openStream (hq : s.Quiet) (kind : TurnKind) (request : Request)
    (resumed : Option Message) : Notes [] (s.openStream kind request resumed) := by
  rw [openStream_eq]
  cases resumed with
  | none =>
    refine .unbegun ?_ rfl rfl
    exact Option.map_eq_none_iff.2 hq.inProgress
  | some m => exact .resumed rfl (Usage.combine_empty _).symm

/-! ## Every run -/

/-- What is known of a session that comes with a history: what its stream has used, and what is
    noted of that on the message in progress. -/
structure Noted (h : List Transition) (s : Session) : Prop where
  summed : Summed h s
  notes : ∀ turn ∈ s.turn, Notes (eventsOf h turn.generation) s

theorem noted_start (conversationId : String) (interval now : Nat) (ids : Ids) :
    Noted [] (start conversationId interval now ids) where
  summed := summed_start conversationId interval now ids
  notes _ ht := absurd ht (Option.not_mem_none _)

theorem Noted.react (hs : Noted h s) (i : Input) :
    Noted (h ++ [s.transition i]) (s.react i).2 := by
  have hc := hs.summed.coherent
  refine ⟨hs.summed.react i, ?_⟩
  rcases hc.proceeds_or_writes i with ⟨hp, hw⟩ | ⟨e, rfl, hl, he⟩
  · generalize (s.react i).2 = s' at hp
    intro turn ht
    cases hp with
    | stays _ ht' hu hx _ =>
      have ha : s'.account? = s.account? := by rw [account?, hx, account?]
      have hb : s'.baseUsage = s.baseUsage := by rw [baseUsage, ht', baseUsage]
      have hn := (hs.notes turn (ht' ▸ ht)).congr ha hb hu
      rw [eventsOf_concat]
      cases he : (s.transition i).eventOf? turn.generation with
      | none => rwa [Option.toList_none, List.append_nil]
      | some e =>
        have he := isTerminal_of_eventOf? hw e he
        exact hn.skips (TurnEvent.begins_of_isTerminal he) (delta?_of_isTerminal he)
    | ends ht' _ => exact absurd (ht' ▸ ht) (Option.not_mem_none turn)
    | @opens e kind request resumed hq hl =>
      have hg : s.generation < e.generation + 1 := Nat.lt_succ_of_le hl.generation_le
      have ht := congrArg Session.turn (e.openStream_eq kind request resumed) ▸ ht
      obtain rfl := Option.some.inj ht
      rw [eventsOf_concat_ahead i (hs.summed.fresh _ hg) hg]
      exact hq.notes_openStream kind request resumed
  · intro turn' ht'
    obtain ⟨runId, ht⟩ := (continues_apply s he).turn
    rw [react_of_live hl] at ht' ⊢
    rw [ht] at ht'
    obtain ⟨turn, ht, rfl⟩ := Option.map_eq_some_iff.1 ht'
    rw [hc.eventsOf_concat_live ht hl]
    exact (hs.notes turn ht).apply hc.belongsTo he

theorem noted_run (conversationId : String) (interval now : Nat) (ids : Ids)
    (inputs : List Input) :
    Noted ((start conversationId interval now ids).history inputs)
      ((start conversationId interval now ids).run inputs) :=
  history_induction (noted_start conversationId interval now ids) fun _ _ i _ hs => hs.react i

/-- The account noted on the message in progress is what its stream has used, on top of what the
    message had used before, whatever the events of the stream were and in whatever order they
    came, unless it is a new message, something was reported before it began, and nothing since.

    In that case nothing at all is noted on the message. -/
theorem message_mirrors_account (conversationId : String) (interval now : Nat) (ids : Ids)
    (inputs : List Input) :
    let fresh := start conversationId interval now ids
    let s := fresh.run inputs
    ∀ p ∈ s.transcript.inProgress, ∃ turn, s.turn = some turn ∧
      let es := eventsOf (fresh.history inputs) turn.generation
      (p.resumed = true ∨ reportsSince es ≠ [] ∨ es.filterMap TurnEvent.delta? = [] →
        p.message.usage.getD .empty = Usage.combine turn.baseUsage s.usage) ∧
      (p.resumed = false → reportsSince es = [] →
        p.message.usage = none ∧ turn.baseUsage = .empty) := by
  intro fresh s p hp
  have hs : Noted (fresh.history inputs) s := noted_run conversationId interval now ids inputs
  have hne : s.transcript.inProgress ≠ none := by
    rw [Option.mem_def.1 hp]
    exact Option.some_ne_none p
  obtain ⟨turn, ht⟩ := Option.ne_none_iff_exists'.1 (hs.summed.coherent.turn_ne hne)
  have ha : s.account? = some (p.resumed, p.message.usage) := by
    rw [account?, Option.mem_def.1 hp]
    rfl
  have hb : s.baseUsage = turn.baseUsage := by
    rw [baseUsage, ht]
    rfl
  have hf : s.inFlightUsage = Usage.combine turn.baseUsage s.usage := by
    rw [inFlightUsage, ht]
    rfl
  refine ⟨turn, ht, ?_⟩
  intro es
  rw [← hf]
  cases hs.notes turn ht with
  | resumed ha' hu =>
    obtain ⟨hr, hm⟩ := Prod.mk.inj (Option.some.inj (ha.symm.trans ha'))
    exact ⟨fun _ => hm ▸ hu, fun h => Bool.noConfusion (h.symm.trans hr)⟩
  | unbegun ha' _ _ => cases ha.symm.trans ha'
  | begun ha' _ hb' =>
    obtain ⟨hr, hm⟩ := Prod.mk.inj (Option.some.inj (ha.symm.trans ha'))
    refine ⟨fun h => ?_, fun _ hn => ⟨hm.trans (if_pos hn), hb.symm.trans hb'⟩⟩
    by_cases hn : reportsSince es = []
    · -- Nothing was reported at all, so that there is nothing to note.
      have hd : es.filterMap TurnEvent.delta? = [] := by
        rcases h with h | h | h
        · exact Bool.noConfusion (h.symm.trans hr)
        · exact absurd hn h
        · exact h
      have hu : s.usage = .empty := by
        rw [hs.summed.usage turn ht, deltasOf, hd]
        rfl
      rw [hm, if_pos hn, hf, ← hb, hb', hu, Usage.combine_empty]
      rfl
    · rw [hm, if_neg hn]
      rfl

/-- The time to the first token comes before the answer begins, and the tokens are reported
    later. -/
theorem message_mirrors_account_reported :
    let inputs : List Input := [.command (.submit "go"), .event ⟨1, .firstToken 40⟩,
      .event ⟨1, .token "well"⟩, .event ⟨1, .usage (.counters 3 1 4 0) .main⟩]
    let fresh := start "c" 100 0 ⟨toString, 0⟩
    let s := fresh.run inputs
    reportsSince (eventsOf (fresh.history inputs) 1) = [.counters 3 1 4 0] ∧
      ∃ p turn, s.transcript.inProgress = some p ∧ s.turn = some turn ∧ p.resumed = false ∧
        s.usage = { Usage.counters 3 1 4 0 with firstToken := some 40 } ∧
        p.message.usage.getD .empty = Usage.combine turn.baseUsage s.usage := by
  intro inputs fresh s
  have hr : reportsSince (eventsOf (fresh.history inputs) 1) = [.counters 3 1 4 0] := by decide
  have hp : s.transcript.inProgress.isSome = true := by decide
  obtain ⟨p, hp⟩ := Option.isSome_iff_exists.1 hp
  obtain ⟨turn, ht, hm, _⟩ := message_mirrors_account "c" 100 0 ⟨toString, 0⟩ inputs p hp
  have hg : s.turn.map (·.generation) = some 1 := by decide
  have hn : s.transcript.inProgress.map (·.resumed) = some false := by decide
  rw [ht] at hg
  rw [hp] at hn
  refine ⟨hr, p, turn, hp, ht, Option.some.inj hn, by decide, hm (.inr (.inl ?_))⟩
  rw [show turn.generation = 1 from Option.some.inj hg, hr]
  exact List.cons_ne_nil _ _

/-- What is reported before the answer begins is not noted on it, although it is accounted. -/
theorem early_report_not_noted :
    let inputs : List Input := [.command (.submit "hi"),
      .event ⟨1, .usage (.counters 1 1 2 0) .main⟩, .event ⟨1, .token "x"⟩]
    let s := (start "c" 100 0 ⟨toString, 0⟩).run inputs
    ∃ p turn, s.transcript.inProgress = some p ∧ s.turn = some turn ∧
      p.message.usage.getD .empty = .empty ∧
      Usage.combine turn.baseUsage s.usage = .counters 1 1 2 0 ∧
      p.message.usage.getD .empty ≠ Usage.combine turn.baseUsage s.usage :=
  ⟨_, _, rfl, rfl, by decide, by decide, by decide⟩

end Session

end Dialogue
