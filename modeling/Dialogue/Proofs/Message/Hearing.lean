import Dialogue.Proofs.Message.Stable
import Dialogue.Proofs.Tool

/-!
# What is heard of a call

Whatever is written to a message, text and news of calls, a call hears the news of it and nothing
else (`News`). Its first segment takes that news, one update after the other; if it has none, one
begins with the first news that may begin it, and news before that is dropped (`heard`). So the
segments of a call are told by those that it had and the news of it (`Message.snapshots`).

A call that begins comes last. Which calls begin and in which order is told by the news that may
begin one (`Message.begunBy`). Between them, these say all that there is to say of the calls of a
message, so that it does not matter how news of different calls and text are interleaved.

* `snapshots_writeAll`: the segments of a call after anything was written;
* `callIds_writeAll`: the calls of a message, in order;
* `eq_of_callIds`: calls are the same if their identifiers are, and the segments of each;
* `last_news_of_call_wins`: what becomes of every call, field by field, however what is written
  is interleaved.
-/

namespace Dialogue

/-! ## News -/

/-- News of a call: an update, and whether it may begin the call. -/
structure News where
  update : ToolUpdate
  begins : Bool
  deriving DecidableEq, Repr

/-- The call that begins with news of it. -/
def News.begun (n : News) : ToolExecution :=
  .ofUpdate n.update (n.update.status.getD .pending)

/-- The news of calls that is written. -/
def Writing.news : Writing → List News
  | .text _ => []
  | .pending us => us.map (⟨·, true⟩)
  | .update u create => [⟨u, create⟩]

/-- The news of a call among all that is written. -/
def newsOf (callId : String) (ws : List Writing) : List News :=
  (ws.flatMap Writing.news).filter (·.update.callId = callId)

theorem newsOf_cons (callId : String) (w : Writing) (ws : List Writing) :
    newsOf callId (w :: ws) = w.news.filter (·.update.callId = callId) ++ newsOf callId ws := by
  rw [newsOf, List.flatMap_cons, List.filter_append]
  rfl

/-- The segments of a call after news of it. -/
def heard : List ToolExecution → News → List ToolExecution
  | e :: es, n => e.merge n.update :: es
  | [], n => if n.begins then [n.begun] else []

theorem heard_nil (n : News) : heard [] n = if n.begins then [n.begun] else [] :=
  rfl

theorem foldl_heard_cons (e : ToolExecution) (es : List ToolExecution) (ns : List News) :
    ns.foldl heard (e :: es) = e.mergeAll (ns.map (·.update)) :: es := by
  induction ns generalizing e with
  | nil => rfl
  | cons n ns ih => exact ih _

/-- A call that has no segment begins with the first news that may begin it. -/
theorem foldl_heard_nil (ns : List News) :
    ns.foldl heard [] = match ns.dropWhile (!·.begins) with
      | [] => []
      | n :: rest => [n.begun.mergeAll (rest.map (·.update))] := by
  induction ns with
  | nil => rfl
  | cons n ns ih =>
    cases hb : n.begins with
    | true =>
      rw [List.foldl_cons, heard_nil, if_pos hb, foldl_heard_cons,
        List.dropWhile_cons_of_neg (by rw [hb]; exact Bool.noConfusion)]
    | false =>
      rw [List.foldl_cons, heard_nil, if_neg (by rw [hb]; exact Bool.noConfusion), ih,
        List.dropWhile_cons_of_pos (by rw [hb]; rfl)]

/-! ## The segments of a call -/

/-- Text that goes to the last segment leaves the calls alone. -/
theorem Segment.executions_extendLast? {text : String} {segments segments' : List Segment}
    (h : extendLast? text segments = some segments') :
    segments'.filterMap execution? = segments.filterMap execution? := by
  induction segments using extendLast?.induct generalizing segments' with
  | case1 | case3 => exact absurd h (Option.some_ne_none _).symm
  | case2 id last =>
    rw [← Option.some.inj h]
    rfl
  | case4 s s' rest ih =>
    rw [extendLast?] at h
    obtain ⟨rest', hr, hs⟩ := Option.map_eq_some_iff.1 h
    rw [← hs, List.filterMap_cons, List.filterMap_cons, ih hr]

/-- News of a call is merged into its first segment. -/
theorem Segment.executions_mergeCall? {u : ToolUpdate} {segments segments' : List Segment}
    (h : mergeCall? u segments = some segments') :
    ∃ before e after, segments.filterMap execution? = before ++ e :: after ∧
      (∀ k ∈ before, k.callId ≠ u.callId) ∧ e.callId = u.callId ∧
      segments'.filterMap execution? = before ++ e.merge u :: after := by
  induction segments generalizing segments' with
  | nil => exact absurd h (Option.some_ne_none _).symm
  | cons s rest ih =>
    cases s with
    | text id words =>
      obtain ⟨rest', hr, rfl⟩ := Option.map_eq_some_iff.1 h
      obtain ⟨before, e, after, hs, hrest⟩ := ih hr
      exact ⟨before, e, after, hs, hrest⟩
    | tool id e =>
      rw [mergeCall?] at h
      split at h
      · next he =>
        rw [← Option.some.inj h]
        exact ⟨[], e, _, rfl, List.forall_mem_nil _, he, rfl⟩
      · next hn =>
        obtain ⟨rest', hr, rfl⟩ := Option.map_eq_some_iff.1 h
        obtain ⟨before, e', after, hs, hb, he, hs'⟩ := ih hr
        refine ⟨e :: before, e', after, ?_, List.forall_mem_cons.2 ⟨hn, hb⟩, he, ?_⟩
        · rw [List.filterMap_cons, hs]
          rfl
        · rw [List.filterMap_cons, hs']
          rfl

namespace Message

variable {m : Message}

/-- The segments of a call, the first of which is the one that hears news of it. -/
def snapshots (m : Message) (callId : String) : List ToolExecution :=
  m.executions.filter (·.callId = callId)

/-- What is known of a call, by its first segment. -/
def call? (m : Message) (callId : String) : Option ToolExecution :=
  m.executions.find? (·.callId = callId)

theorem call?_eq (m : Message) (callId : String) : m.call? callId = (m.snapshots callId).head? :=
  List.head?_filter.symm

/-- A call has no segment just if the message does not have the call. -/
theorem snapshots_eq_nil_iff {callId : String} : m.snapshots callId = [] ↔ callId ∉ m.callIds := by
  rw [snapshots, List.filter_eq_nil_iff, callIds, List.mem_map]
  simp only [decide_eq_true_iff, not_exists, not_and]

theorem callId_of_mem_snapshots {callId : String} {e : ToolExecution}
    (h : e ∈ m.snapshots callId) : e.callId = callId :=
  of_decide_eq_true (List.mem_filter.1 h).2

theorem executions_appendText (m : Message) (ids : Ids) (text : String) :
    (m.appendText ids text).1.executions = m.executions := by
  unfold appendText
  split
  · rfl
  · split
    · next h => exact Segment.executions_extendLast? h
    · rw [executions, List.filterMap_append]
      exact List.append_nil _

/-- A call hears news of it. -/
theorem snapshots_applyUpdate_self (m : Message) (u : ToolUpdate) (create : Bool) :
    (m.applyUpdate u create).2.snapshots u.callId =
      heard (m.snapshots u.callId) ⟨u, create⟩ := by
  unfold applyUpdate
  split
  · next segments h =>
    obtain ⟨before, e, after, hs, hb, he, hs'⟩ := Segment.executions_mergeCall? h
    -- No segment before the one that the news finds is of its call.
    have hn : before.filter (·.callId = u.callId) = [] :=
      List.filter_eq_nil_iff.2 fun k hk => by simpa using hb k hk
    have hm : (e.merge u).callId = u.callId := he
    simp [snapshots, executions, hs, hs', hn, he, hm, heard]
  · next h =>
    have hn : m.snapshots u.callId = [] := by
      rw [snapshots_eq_nil_iff]
      intro hin
      have hs := Segment.mergeCall?_isSome_iff.2 hin
      rw [h] at hs
      exact Bool.noConfusion hs
    rw [hn]
    cases create with
    | true =>
      have hc : (News.begun ⟨u, true⟩).callId = u.callId := rfl
      have hb : [News.begun ⟨u, true⟩].filter (·.callId = u.callId) = [News.begun ⟨u, true⟩] := by
        simp [hc]
      rw [snapshots, executions] at hn
      rw [if_pos rfl, snapshots, executions, List.filterMap_append, List.filter_append, hn]
      exact hb
    | false => exact hn

/-- And it hears no other news. -/
theorem snapshots_applyUpdate_of_ne (m : Message) {u : ToolUpdate} (create : Bool)
    {callId : String} (hc : u.callId ≠ callId) :
    (m.applyUpdate u create).2.snapshots callId = m.snapshots callId := by
  unfold applyUpdate
  split
  · next segments h =>
    obtain ⟨before, e, after, hs, _, he, hs'⟩ := Segment.executions_mergeCall? h
    have hm : (e.merge u).callId = u.callId := he
    simp [snapshots, executions, hs, hs', he, hm, hc]
  · split
    · have hu : (ToolExecution.ofUpdate u (u.status.getD .pending)).callId ≠ callId := hc
      have hn : [ToolExecution.ofUpdate u (u.status.getD .pending)].filter
          (·.callId = callId) = [] := by
        simp [hu]
      rw [snapshots, executions, List.filterMap_append, List.filter_append]
      exact (congrArg (_ ++ ·) hn).trans (List.append_nil _)
    · rfl

/-- Whatever is written, a call hears the news of it that is in it. -/
theorem snapshots_write (m : Message) (ids : Ids) (w : Writing) (callId : String) :
    (m.write ids w).snapshots callId =
      (w.news.filter (·.update.callId = callId)).foldl heard (m.snapshots callId) := by
  have hone (m : Message) (u : ToolUpdate) (create : Bool) :
      (m.write ids (.update u create)).snapshots callId =
        ([⟨u, create⟩].filter (fun n : News => n.update.callId = callId)).foldl heard
          (m.snapshots callId) := by
    by_cases hc : u.callId = callId
    · subst hc
      simp [write, snapshots_applyUpdate_self]
    · simp [write, snapshots_applyUpdate_of_ne m create hc, hc]
  cases w with
  | text words => rw [write, snapshots, executions_appendText]; rfl
  | update u create => exact hone m u create
  | pending us =>
    induction us using List.reverseRecOn with
    | nil => rfl
    | append_singleton us u ih =>
      have hn : (Writing.pending (us ++ [u])).news = (Writing.pending us).news ++ [⟨u, true⟩] :=
        List.map_append
      rw [write_pending_concat, hone, ih, hn, List.filter_append, List.foldl_append]

/-! ## Writing any number of things -/

/-- The supply after something was written. A new segment of text takes an identifier. -/
def supplyAfter (m : Message) (ids : Ids) : Writing → Ids
  | .text words => (m.appendText ids words).2
  | _ => ids

/-- Write to a message, one thing after the other. -/
def writeAll (m : Message) (ids : Ids) : List Writing → Message
  | [] => m
  | w :: ws => (m.write ids w).writeAll (m.supplyAfter ids w) ws

/-- Whatever is written, a call hears the news of it, in order. -/
theorem snapshots_writeAll (m : Message) (ids : Ids) (ws : List Writing) (callId : String) :
    (m.writeAll ids ws).snapshots callId = (newsOf callId ws).foldl heard (m.snapshots callId) := by
  induction ws generalizing m ids with
  | nil => rfl
  | cons w ws ih => rw [writeAll, ih, snapshots_write, newsOf_cons, List.foldl_append]

/-! ## The order of calls -/

/-- The calls that begin with what is written, in order. -/
def begunBy (m : Message) (ws : List Writing) : List String :=
  newCalls m.callIds (ws.flatMap Writing.created)

theorem callIds_writeAll (m : Message) (ids : Ids) (ws : List Writing) :
    (m.writeAll ids ws).callIds = m.callIds ++ m.begunBy ws := by
  induction ws generalizing m ids with
  | nil => exact (List.append_nil _).symm
  | cons w ws ih =>
    rw [writeAll, ih, begunBy, begunBy, callIds_write_append, List.flatMap_cons, newCalls_append,
      List.append_assoc]

/-- Calls are the same ones in the same order if their identifiers are, and if every call has the
    same segments. -/
theorem eq_of_callIds {es es' : List ToolExecution}
    (hids : es.map (·.callId) = es'.map (·.callId))
    (hs : ∀ c, es.filter (·.callId = c) = es'.filter (·.callId = c)) : es = es' := by
  induction es generalizing es' with
  | nil => exact (List.map_eq_nil_iff.1 hids.symm).symm
  | cons e es ih =>
    obtain ⟨e', rest', rfl, he, hrest⟩ := List.map_eq_cons_iff.1 hids.symm
    -- The two that come first are of the same call, of which they are the first segments.
    have hf := hs e.callId
    rw [List.filter_cons_of_pos (by simp), List.filter_cons_of_pos (by simpa using he)] at hf
    obtain ⟨rfl, htail⟩ := List.cons.inj hf
    refine congrArg (e :: ·) (ih hrest.symm fun c => ?_)
    by_cases hc : e.callId = c
    · exact hc ▸ htail
    · have hf := hs c
      rwa [List.filter_cons_of_neg (by simpa using hc),
        List.filter_cons_of_neg (by simpa using hc)] at hf

/-! ## What becomes of a call -/

/-- The updates of a call that count: all of them if the message has the call, and else those from
    the first one on that may begin it. -/
def counted (m : Message) (callId : String) (ws : List Writing) : List ToolUpdate :=
  match m.call? callId with
  | some _ => (newsOf callId ws).map (·.update)
  | none => ((newsOf callId ws).dropWhile (!·.begins)).map (·.update)

theorem call?_writeAll (m : Message) (ids : Ids) (ws : List Writing) (callId : String) :
    (m.writeAll ids ws).call? callId = match m.call? callId with
      | some e => some (e.mergeAll ((newsOf callId ws).map (·.update)))
      | none => match (newsOf callId ws).dropWhile (!·.begins) with
        | [] => none
        | n :: rest => some (n.begun.mergeAll (rest.map (·.update))) := by
  rw [call?_eq, call?_eq, snapshots_writeAll]
  cases m.snapshots callId with
  | cons e es => rw [foldl_heard_cons]; rfl
  | nil =>
    rw [foldl_heard_nil, List.head?_nil]
    cases (newsOf callId ws).dropWhile (!·.begins) <;> rfl

/-- A call comes to the updates that count, merged into what was known of it, which may be
    nothing. -/
theorem eq_mergeAll_of_call? {m : Message} {ids : Ids} {ws : List Writing} {callId : String}
    {e : ToolExecution} (h : (m.writeAll ids ws).call? callId = some e) :
    e = ((m.call? callId).getD (.bare callId .pending)).mergeAll (m.counted callId ws) := by
  rw [call?_writeAll] at h
  rw [counted]
  cases hm : m.call? callId with
  | some e₀ =>
    simp only [hm] at h
    exact (Option.some.inj h).symm
  | none =>
    simp only [hm] at h
    cases hd : (newsOf callId ws).dropWhile (!·.begins) with
    | nil =>
      simp only [hd] at h
      exact absurd h (Option.some_ne_none _).symm
    | cons n rest =>
      simp only [hd] at h
      have hn : n ∈ newsOf callId ws :=
        (List.dropWhile_suffix _).subset (hd ▸ List.mem_cons_self)
      have hc : n.update.callId = callId := of_decide_eq_true (List.mem_filter.1 hn).2
      rw [← Option.some.inj h, News.begun, ToolExecution.ofUpdate_eq_merge, hc]
      rfl

theorem callId_of_call? {m : Message} {callId : String} {e : ToolExecution}
    (h : m.call? callId = some e) : e.callId = callId :=
  callId_of_mem_snapshots (List.mem_of_mem_head? (m.call?_eq callId ▸ h))

open ToolUpdate in
/-- Whatever is written to a message, of every call the last news wins. What is known of it is
    what was known before with the updates of the call merged into it, in order, and of a call
    that the message did not have, what begins with the first of them that may begin it, with
    those after it; if there is none the call does not begin. So each field holds what the last
    update that counts and carries it says. Nothing else matters: the calls are the same ones in
    the same order after whatever else is written that has the same news of every call, and
    begins calls in the same order. -/
theorem last_news_of_call_wins (m : Message) (ids : Ids) (ws : List Writing) :
    (∀ callId, (m.writeAll ids ws).call? callId = match m.call? callId with
      | some e => some (((newsOf callId ws).map (·.update)).foldl .merge e)
      | none => match (newsOf callId ws).dropWhile (!·.begins) with
        | [] => none
        | n :: rest => some ((rest.map (·.update)).foldl .merge
            (.ofUpdate n.update (n.update.status.getD .pending)))) ∧
    (∀ callId e, (m.writeAll ids ws).call? callId = some e →
      let before := (m.call? callId).getD (.bare callId .pending)
      let us := m.counted callId ws
      e = {
        callId
        name := (lastOf (·.name) us).getD before.name
        title := lastOf (·.title) us <|> before.title
        arguments := (lastOf (·.arguments) us).getD before.arguments
        status := (lastOf (·.status) us).getD before.status
        result := lastOf (·.result) us <|> before.result
        error := lastOf (·.error) us <|> before.error
        requiresApproval := (lastOf (·.requiresApproval) us).getD before.requiresApproval }) ∧
    ∀ ids' ws', (∀ callId, newsOf callId ws' = newsOf callId ws) → m.begunBy ws' = m.begunBy ws →
      (m.writeAll ids' ws').executions = (m.writeAll ids ws).executions := by
  refine ⟨call?_writeAll m ids ws, fun callId e h => ?_, fun ids' ws' hn hb => ?_⟩
  · intro before us
    have hc : before.callId = callId := by
      cases hm : m.call? callId with
      | some e₀ => simpa [before, hm] using callId_of_call? hm
      | none => simp [before, hm, ToolExecution.bare]
    rw [eq_mergeAll_of_call? h, ToolExecution.mergeAll_eq, ToolExecution.mk.injEq]
    exact ⟨hc, rfl, rfl, rfl, rfl, rfl, rfl, rfl⟩
  · refine eq_of_callIds ?_ fun c => ?_
    · exact (callIds_writeAll m ids' ws').trans (hb ▸ (callIds_writeAll m ids ws).symm)
    · exact (snapshots_writeAll m ids' ws' c).trans (hn c ▸ (snapshots_writeAll m ids ws c).symm)

/-- Two calls that begin at once, and then the news of both and some text, one way around and the
    other. -/
theorem last_news_of_call_wins_interleaved :
    let ids : Ids := { name := Nat.repr }
    let m := beginAssistant "a" 0
    let begin : Writing := .pending [{ callId := "x", name := some "read" }, { callId := "y" }]
    let ws := [begin, .text "Done.", .update (.withStatus "x" .executing) false,
      .update (.withStatus "y" .denied) false]
    let ws' := [begin, .update (.withStatus "y" .denied) false, .text "Done.",
      .update (.withStatus "x" .executing) false]
    (m.writeAll ids ws).call? "x" =
        some { ToolExecution.bare "x" .executing with name := "read" } ∧
      (m.writeAll ids ws').executions = (m.writeAll ids ws).executions := by
  intro ids m begin ws ws'
  obtain ⟨-, hlast, hsame⟩ := last_news_of_call_wins m ids ws
  refine ⟨?_, hsame _ ws' (fun callId => ?_) (by decide)⟩
  · have h : ((m.writeAll ids ws).call? "x").isSome = true := by decide
    obtain ⟨e, he⟩ := Option.isSome_iff_exists.1 h
    rw [he, hlast "x" e he]
    decide
  · -- Each of the two calls hears the same, and no other call hears anything.
    by_cases hx : "x" = callId
    · subst hx
      decide
    · by_cases hy : "y" = callId
      · subst hy
        decide
      · simp [newsOf, ws, ws', begin, Writing.news, ToolUpdate.withStatus, hx, hy]

end Message

end Dialogue
