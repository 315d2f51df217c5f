import Dialogue.Proofs.Terminal.Rendering
import Mathlib.Data.List.Destutter

/-!
# What the terminal shows of calls

Whenever a message is told, its calls are looked at, and a line is written for each call whose
status is another one than was written for it last. The lines are told apart by the message at
which they were written (`Notice`), but what was written last is remembered by the identifier of
the call alone. So the lines of a call spell out how its status changes as long as no other message
has a call of the same identifier. If one has, its lines count as well.

* `statuses_announced`: the statuses in the lines of an identifier are those that its calls had,
  without repetitions;
* `lookup_shown`: what is remembered is the status that was written last;
* `status_changes_shown`: a call has a line where its status is not the one that was written last
  for it, in its own message or in another one.
-/

namespace Dialogue.Terminal

/-! ## Lists without repetitions -/

section Destutter

variable {α : Type} [DecidableEq α]

theorem destutter'_concat (a b : α) (as : List α) :
    (as ++ [b]).destutter' (· ≠ ·) a =
      as.destutter' (· ≠ ·) a ++ if (a :: as).getLast? = some b then [] else [b] := by
  induction as generalizing a with
  | nil => by_cases h : a = b <;> simp [h]
  | cons c as ih =>
    rw [List.cons_append, List.destutter'_cons, List.destutter'_cons]
    by_cases h : a ≠ c
    · rw [if_pos h, if_pos h, ih, List.cons_append, List.getLast?_cons_cons]
    · rw [if_neg h, if_neg h, ih, List.getLast?_cons_cons, not_not.1 h]

/-- What comes next is kept if it is not what came last. -/
theorem destutter_concat (as : List α) (b : α) :
    (as ++ [b]).destutter (· ≠ ·) =
      as.destutter (· ≠ ·) ++ if as.getLast? = some b then [] else [b] := by
  cases as with
  | nil => rfl
  | cons a as => exact destutter'_concat a b as

theorem getLast?_destutter (as : List α) : (as.destutter (· ≠ ·)).getLast? = as.getLast? := by
  induction as using List.reverseRecOn with
  | nil => rfl
  | append_singleton as b ih =>
    rw [destutter_concat, List.getLast?_append, List.getLast?_append]
    split_ifs with h
    · rw [ih, h]
      rfl
    · rfl

end Destutter

/-! ## Lines of calls -/

/-- The calls of answers that updates tell, in order. -/
def callsTold (us : List Update) : List ToolExecution :=
  ((versions us).filter Message.isAssistant).flatMap Message.executions

/-- The statuses that calls of an identifier have, in order. -/
def statusesOf (callId : String) (es : List ToolExecution) : List ToolStatus :=
  (es.filter (·.callId = callId)).map (·.status)

theorem statusesOf_append (callId : String) (es es' : List ToolExecution) :
    statusesOf callId (es ++ es') = statusesOf callId es ++ statusesOf callId es' := by
  rw [statusesOf, List.filter_append, List.map_append]
  rfl

namespace Renderer

variable {r : Renderer} {shown : List (String × ToolStatus)} {e : ToolExecution}
  {es : List ToolExecution} {callId : String}

/-- The calls that have a line written for them. -/
def announced (shown : List (String × ToolStatus)) : List ToolExecution → List ToolExecution
  | [] => []
  | e :: es =>
    (if shown.lookup e.callId = some e.status then [] else [e]) ++
      announced (stepTool shown e).2 es

/-- The lines are those of the calls. -/
theorem tools_eq_join (shown : List (String × ToolStatus)) (es : List ToolExecution) :
    (tools shown es).1 = String.join ((announced shown es).map toolLine) := by
  induction es generalizing shown with
  | nil => rfl
  | cons e es ih =>
    rw [tools, announced, List.map_append, String.join_append]
    simp only [ih]
    rw [stepTool]
    split_ifs <;> simp

theorem lookup_stepTool (shown : List (String × ToolStatus)) (e : ToolExecution)
    (callId : String) : (stepTool shown e).2.lookup callId =
      if callId = e.callId then some e.status else shown.lookup callId := by
  rw [stepTool]
  split_ifs with h hc hc
  · rw [hc, h]
  · rfl
  · rw [Keyed.lookup_put, if_pos hc]
  · rw [Keyed.lookup_put, if_neg hc]

theorem tools_append (shown : List (String × ToolStatus)) (es es' : List ToolExecution) :
    (tools shown (es ++ es')).2 = (tools (tools shown es).2 es').2 := by
  induction es generalizing shown with
  | nil => rfl
  | cons e es ih => exact ih _

theorem announced_append (shown : List (String × ToolStatus)) (es es' : List ToolExecution) :
    announced shown (es ++ es') =
      announced shown es ++ announced (tools shown es).2 es' := by
  induction es generalizing shown with
  | nil => rfl
  | cons e es ih =>
    rw [List.cons_append, announced, ih, announced, List.append_assoc]
    rfl

theorem announced_sublist (shown : List (String × ToolStatus)) (es : List ToolExecution) :
    (announced shown es).Sublist es := by
  induction es generalizing shown with
  | nil => exact .slnil
  | cons e es ih =>
    rw [announced]
    split_ifs
    · exact (ih _).cons e
    · exact (ih _).cons_cons e

/-- If identifiers tell calls apart, a call has a line if its status is not the one that is
    remembered. -/
theorem mem_announced_iff (hn : (es.map (·.callId)).Nodup) (he : e ∈ es) :
    e ∈ announced shown es ↔ shown.lookup e.callId ≠ some e.status := by
  induction es generalizing shown with
  | nil => cases he
  | cons e' es ih =>
    obtain ⟨hne, hn⟩ := List.nodup_cons.1 hn
    rw [announced, List.mem_append]
    rcases List.mem_cons.1 he with rfl | he
    · -- The call is none of those that follow.
      have hrest : e ∉ announced (stepTool shown e).2 es := fun hm =>
        hne (List.mem_map_of_mem ((announced_sublist _ _).subset hm))
      split_ifs with h
      · simp [hrest, h]
      · simp [h]
    · have hid : e.callId ≠ e'.callId := fun h => hne (List.mem_map.2 ⟨e, he, h⟩)
      have hfirst : e ∉ if shown.lookup e'.callId = some e'.status then [] else [e'] := by
        split_ifs
        · exact List.not_mem_nil
        · exact fun hm => hid (congrArg _ (List.mem_singleton.1 hm))
      rw [or_iff_right hfirst, ih hn he, lookup_stepTool, if_neg hid]

theorem statusesOf_singleton (callId : String) (e : ToolExecution) :
    statusesOf callId [e] = if callId = e.callId then [e.status] else [] := by
  rw [statusesOf, List.filter_singleton]
  by_cases h : callId = e.callId
  · simp [h]
  · simp [h, Ne.symm h]

/-- What is remembered of an identifier is the status of its last call. -/
theorem lookup_tools (es : List ToolExecution) (callId : String) :
    (tools [] es).2.lookup callId = (statusesOf callId es).getLast? := by
  induction es using List.reverseRecOn with
  | nil => rfl
  | append_singleton es e ih =>
    have hstep : (tools (tools [] es).2 [e]).2 = (stepTool (tools [] es).2 e).2 := rfl
    rw [tools_append, hstep, lookup_stepTool, statusesOf_append, statusesOf_singleton,
      List.getLast?_append, ih]
    split_ifs <;> rfl

/-- The lines of an identifier give the statuses of its calls, without repetitions. -/
theorem statuses_announced (es : List ToolExecution) (callId : String) :
    statusesOf callId (announced [] es) = (statusesOf callId es).destutter (· ≠ ·) := by
  induction es using List.reverseRecOn with
  | nil => rfl
  | append_singleton es e ih =>
    have hlast : announced (tools [] es).2 [e] =
        if (tools [] es).2.lookup e.callId = some e.status then [] else [e] :=
      List.append_nil _
    rw [announced_append, statusesOf_append, ih, hlast, lookup_tools, statusesOf_append,
      statusesOf_singleton]
    by_cases h : callId = e.callId
    · rw [if_pos h, destutter_concat, h]
      congr 1
      split_ifs
      · rfl
      · rw [statusesOf_singleton, if_pos rfl]
    · rw [if_neg h, List.append_nil]
      split_ifs
      · exact List.append_nil _
      · rw [statusesOf_singleton, if_neg h, List.append_nil]

end Renderer

/-! ## Notices -/

/-- A line that is written for a call, at an update of a message. -/
structure Notice where
  /-- The identifier of the message. -/
  message : String
  call : ToolExecution
  deriving DecidableEq, Repr

namespace Notice

/-- The last of some notices of an identifier. -/
def last? (callId : String) (ns : List Notice) : Option Notice :=
  (ns.filter (·.call.callId = callId)).getLast?

/-- The statuses in the notices of an identifier. -/
def statuses (callId : String) (ns : List Notice) : List ToolStatus :=
  statusesOf callId (ns.map (·.call))

/-- The notices at updates of a message. -/
def ofMessage (id : String) (ns : List Notice) : List Notice :=
  ns.filter (·.message = id)

variable {id callId : String} {ns : List Notice}

theorem statuses_eq (callId : String) (ns : List Notice) :
    statuses callId ns = (ns.filter (·.call.callId = callId)).map (·.call.status) := by
  rw [statuses, statusesOf, List.filter_map, List.map_map]
  rfl

/-- If the last notice of an identifier is at a message, then it is the last one at that
    message. -/
theorem getLast?_statuses_ofMessage (h : ∀ n ∈ last? callId ns, n.message = id) :
    (statuses callId (ofMessage id ns)).getLast? = (statuses callId ns).getLast? := by
  rw [statuses_eq, statuses_eq, List.getLast?_map, List.getLast?_map, ofMessage,
    List.filter_comm]
  rw [last?] at h
  congr 1
  generalize ns.filter (fun n => n.call.callId = callId) = ns at h
  induction ns using List.reverseRecOn with
  | nil => rfl
  | append_singleton ns n _ =>
    have hn : n.message = id := h n List.getLast?_concat
    rw [List.filter_append, List.filter_singleton, decide_eq_true hn]
    simp

/-- If there are no others, nothing is left out. -/
theorem statuses_ofMessage (h : ∀ n ∈ ns, n.call.callId = callId → n.message = id) :
    statuses callId (ofMessage id ns) = statuses callId ns := by
  rw [statuses_eq, statuses_eq, ofMessage, List.filter_comm, List.filter_eq_self.2]
  intro n hn
  obtain ⟨hm, hc⟩ := List.mem_filter.1 hn
  exact decide_eq_true (h n hm (of_decide_eq_true hc))

end Notice

namespace Renderer

variable {r : Renderer} {u : Update} {m : Message} {id callId : String}

/-- The lines that are written at an update. -/
def notices (r : Renderer) (u : Update) : List Notice :=
  match u.message? with
  | some m =>
    if m.isAssistant then (announced r.shown m.executions).map (Notice.mk m.id) else []
  | none => []

/-- The lines that are written at updates. -/
def noticesAll (r : Renderer) : List Update → List Notice
  | [] => []
  | u :: us => r.notices u ++ (r.render u).2.noticesAll us

/-- The header of a message, if it was not written yet. -/
def header (r : Renderer) (m : Message) : String :=
  if (r.printed.lookup m.id).isNone then "\nassistant> " else ""

/-- What there is of new text in a message. -/
def fresh (r : Renderer) (m : Message) : String :=
  String.ofList (restAfter ((r.printed.lookup m.id).getD 0) m.content)

/-- What is written behind a message. -/
def ending : Update → String
  | .messageFinalized _ => "\n"
  | _ => ""

/-- What is written at an update of an answer: the notices stand between the header and the new
    text. -/
theorem render_eq (hu : u.message? = some m) (ha : m.isAssistant = true) :
    (r.render u).1 = r.header m ++ String.join ((r.notices u).map (toolLine ·.call)) ++
      r.fresh m ++ ending u := by
  have hlines : String.join ((r.notices u).map (toolLine ·.call)) =
      (tools r.shown m.executions).1 := by
    rw [notices, hu, tools_eq_join]
    simp only [ha, if_true, List.map_map]
    rfl
  have hmessage (finalized : Bool) : (r.message m finalized).1 =
      r.header m ++ (tools r.shown m.executions).1 ++ r.fresh m ++
        (if finalized then "\n" else "") := by
    rw [message, if_pos ha]
    rfl
  rw [hlines]
  cases u with
  | messageUpdated m' =>
    obtain rfl := Option.some.inj hu
    exact hmessage false
  | messageFinalized m' =>
    obtain rfl := Option.some.inj hu
    exact hmessage true
  | _ => cases hu

theorem noticesAll_concat (r : Renderer) (us : List Update) (u : Update) :
    r.noticesAll (us ++ [u]) = r.noticesAll us ++ (r.renderAll us).2.notices u := by
  induction us generalizing r with
  | nil => exact List.append_nil _
  | cons v us ih =>
    rw [List.cons_append, noticesAll, noticesAll, ih, renderAll_cons, List.append_assoc]

theorem callsTold_of_told (hu : u.message? = some m) :
    callsTold [u] = if m.isAssistant then m.executions else [] := by
  rw [callsTold, versions, List.filterMap_cons_some hu, List.filterMap_nil, List.filter_singleton]
  cases m.isAssistant <;> simp

theorem callsTold_of_untold (hu : u.message? = none) : callsTold [u] = [] := by
  rw [callsTold, versions, List.filterMap_cons_none hu]
  rfl

theorem callsTold_append (us vs : List Update) :
    callsTold (us ++ vs) = callsTold us ++ callsTold vs := by
  rw [callsTold, versions_append, List.filter_append, List.flatMap_append]
  rfl

/-- The notices are of the calls that are announced. -/
theorem calls_notices (r : Renderer) (u : Update) :
    (r.notices u).map (·.call) = announced r.shown (callsTold [u]) := by
  rw [notices]
  cases hu : u.message? with
  | none => rw [callsTold_of_untold hu]; rfl
  | some m =>
    rw [callsTold_of_told hu]
    cases ha : m.isAssistant <;> simp [ha, announced, Function.comp_def]

theorem shown_message (r : Renderer) (m : Message) (finalized : Bool) :
    (r.message m finalized).2.shown =
      (tools r.shown (if m.isAssistant then m.executions else [])).2 := by
  rw [message]
  split_ifs <;> rfl

theorem shown_render (r : Renderer) (u : Update) :
    (r.render u).2.shown = (tools r.shown (callsTold [u])).2 := by
  cases u with
  | messageUpdated m => rw [callsTold_of_told rfl]; exact shown_message r m false
  | messageFinalized m => rw [callsTold_of_told rfl]; exact shown_message r m true
  | _ => rw [callsTold_of_untold rfl, render_of_untold rfl]; rfl

theorem shown_renderAll (us : List Update) :
    (renderAll {} us).2.shown = (tools [] (callsTold us)).2 := by
  induction us using List.reverseRecOn with
  | nil => rfl
  | append_singleton us u ih =>
    rw [renderAll_concat, shown_render, ih, callsTold_append, tools_append]

theorem calls_noticesAll (us : List Update) :
    (noticesAll {} us).map (·.call) = announced [] (callsTold us) := by
  induction us using List.reverseRecOn with
  | nil => rfl
  | append_singleton us u ih =>
    rw [noticesAll_concat, List.map_append, ih, calls_notices, shown_renderAll, callsTold_append,
      announced_append]

/-- The statuses in all notices of an identifier are those that its calls had, without
    repetitions. -/
theorem statuses_noticesAll (us : List Update) (callId : String) :
    Notice.statuses callId (noticesAll {} us) =
      (statusesOf callId (callsTold us)).destutter (· ≠ ·) := by
  rw [Notice.statuses, calls_noticesAll, statuses_announced]

/-- What is remembered of an identifier is the status that was written last. -/
theorem lookup_shown (us : List Update) (callId : String) :
    (renderAll {} us).2.shown.lookup callId =
      (Notice.statuses callId (noticesAll {} us)).getLast? := by
  rw [shown_renderAll, lookup_tools, statuses_noticesAll, getLast?_destutter]

/-- A call has a line if its status is not the one that was written last for its identifier. -/
theorem mem_notices_iff (us : List Update) (hu : u.message? = some m) (ha : m.isAssistant = true)
    (hn : (m.executions.map (·.callId)).Nodup) {e : ToolExecution} (he : e ∈ m.executions) :
    ⟨m.id, e⟩ ∈ (renderAll {} us).2.notices u ↔
      (Notice.statuses e.callId (noticesAll {} us)).getLast? ≠ some e.status := by
  rw [← lookup_shown, ← mem_announced_iff hn he, notices, hu]
  simp [ha]

/-! ### Notices of one message -/

/-- Every notice is at a message that was told, of a call of it. -/
theorem of_mem_noticesAll {us : List Update} {n : Notice} (h : n ∈ noticesAll r us) :
    ∃ m ∈ versions us, m.isAssistant = true ∧ m.id = n.message ∧ n.call ∈ m.executions := by
  induction us generalizing r with
  | nil => cases h
  | cons u us ih =>
    rw [noticesAll, List.mem_append] at h
    rcases h with h | h
    · rw [notices] at h
      cases hu : u.message? with
      | none => simp [hu] at h
      | some m =>
        simp only [hu] at h
        split_ifs at h with ha
        · obtain ⟨e, he, rfl⟩ := List.mem_map.1 h
          exact ⟨m, List.mem_filterMap.2 ⟨u, List.mem_cons_self, hu⟩, ha, rfl,
            (announced_sublist _ _).subset he⟩
        · cases h
    · obtain ⟨m, hm, hn⟩ := ih h
      obtain ⟨v, hv, hvm⟩ := List.mem_filterMap.1 hm
      exact ⟨m, List.mem_filterMap.2 ⟨v, List.mem_cons_of_mem _ hv, hvm⟩, hn⟩

/-- If only one message has calls of an identifier, the calls that are told of it are all. -/
theorem statusesOf_answers {us : List Update}
    (h : ∀ m ∈ versions us, m.isAssistant = true → callId ∈ m.executions.map (·.callId) →
      m.id = id) :
    statusesOf callId ((answers id us).flatMap Message.executions) =
      statusesOf callId (callsTold us) := by
  rw [answers, callsTold]
  generalize versions us = ms at h
  induction ms with
  | nil => rfl
  | cons m ms ih =>
    rw [List.forall_mem_cons] at h
    rw [List.filter_cons, List.filter_cons]
    cases ha : m.isAssistant with
    | false => simpa using ih h.2
    | true =>
      by_cases hid : m.id = id
      · simp only [hid, decide_true, Bool.and_true, if_true, List.flatMap_cons, statusesOf_append,
          ih h.2]
      · -- Another message has no such call.
        have hm : statusesOf callId m.executions = [] := by
          rw [statusesOf, List.map_eq_nil_iff, List.filter_eq_nil_iff]
          exact fun e he hc =>
            hid (h.1 ha (List.mem_map.2 ⟨e, he, of_decide_eq_true hc⟩))
        simp only [hid, decide_false, Bool.and_false, if_true, List.flatMap_cons,
          statusesOf_append, hm, List.nil_append]
        exact ih h.2

end Renderer

open Renderer Notice

/-- At each update of an answer, whatever came before, a call of it has a line if and only if its
    status is not the one that was written last for its identifier. If that was in another message
    this is not what its own message has shown of it; otherwise it is, and a call has a line if and
    only if its status is not the one that was written last for it in its message. So if only one
    message has calls of an identifier, their lines spell out the changes of the status, without
    repetitions. -/
theorem status_changes_shown (us : List Update) :
    (∀ u m, u.message? = some m → m.isAssistant = true → (m.executions.map (·.callId)).Nodup →
      let r := (renderAll {} us).2
      let ns := noticesAll {} us
      (r.render u).1 = r.header m ++ String.join ((r.notices u).map (toolLine ·.call)) ++
        r.fresh m ++ ending u ∧
      ∀ e ∈ m.executions,
        (⟨m.id, e⟩ ∈ r.notices u ↔ (statuses e.callId ns).getLast? ≠ some e.status) ∧
        ((∀ n ∈ last? e.callId ns, n.message = m.id) →
          (⟨m.id, e⟩ ∈ r.notices u ↔
            (statuses e.callId (ofMessage m.id ns)).getLast? ≠ some e.status))) ∧
    ∀ id callId, (∀ m ∈ versions us, m.isAssistant = true →
        callId ∈ m.executions.map (·.callId) → m.id = id) →
      statuses callId (ofMessage id (noticesAll {} us)) =
        (statusesOf callId ((answers id us).flatMap Message.executions)).destutter (· ≠ ·) := by
  refine ⟨fun u m hu ha hn => ⟨render_eq hu ha, fun e he => ?_⟩, fun id callId h => ?_⟩
  · have hm := mem_notices_iff us hu ha hn he
    refine ⟨hm, fun hl => ?_⟩
    rw [getLast?_statuses_ofMessage hl]
    exact hm
  · have hn : ∀ n ∈ noticesAll {} us, n.call.callId = callId → n.message = id := by
      intro n hn hc
      obtain ⟨m, hm, ha, hid, he⟩ := of_mem_noticesAll hn
      exact hid ▸ h m hm ha (List.mem_map.2 ⟨n.call, he, hc⟩)
    rw [statuses_ofMessage hn, statuses_noticesAll, statusesOf_answers h]

/-- A call is pending, is told again as it is, and then waits for a decision, while another message
    has a call of another identifier. -/
theorem status_changes_shown_waiting :
    let call (status : ToolStatus) := { ToolExecution.bare "c1" status with
      name := "restart", requiresApproval := true }
    let answer (status : ToolStatus) := { Message.beginAssistant "a" 0 with
      segments := [.ofExecution (call status), .ofExecution (.bare "c2" .executing)] }
    let other := { Message.beginAssistant "b" 0 with
      segments := [.ofExecution (.bare "c3" .completed)] }
    let us : List Update := [.messageUpdated (answer .pending), .messageUpdated (answer .pending),
      .messageFinalized other]
    let u : Update := .messageUpdated (answer .awaitingApproval)
    let m := answer .awaitingApproval
    (m.executions.map (·.callId)).Nodup ∧ (∀ n ∈ last? "c1" (noticesAll {} us), n.message = "a") ∧
      (⟨"a", call .awaitingApproval⟩ : Notice) ∈ (renderAll {} us).2.notices u ∧
      statuses "c1" (ofMessage "a" (noticesAll {} (us ++ [u, u]))) =
        [.pending, .awaitingApproval] := by
  intro call answer other us u m
  have hn : (m.executions.map (·.callId)).Nodup := by decide
  have hl : ∀ n ∈ last? "c1" (noticesAll {} us), n.message = "a" := by decide
  have hs : (statuses "c1" (ofMessage "a" (noticesAll {} us))).getLast? ≠
      some .awaitingApproval := by decide
  have he : call .awaitingApproval ∈ m.executions := List.mem_cons_self
  have hshown := ((status_changes_shown us).1 u m rfl rfl hn).2 _ he
  have honly : ∀ m ∈ versions (us ++ [u, u]), m.isAssistant = true →
      "c1" ∈ m.executions.map (·.callId) → m.id = "a" := by decide
  have hchanges := (status_changes_shown (us ++ [u, u])).2 "a" "c1" honly
  exact ⟨hn, hl, (hshown.2 hl).2 hs, hchanges.trans (by decide)⟩

/-- A call of the next message that waits for a decision as one of the same identifier did before
    has no line. -/
theorem waiting_call_not_shown :
    let call := { ToolExecution.bare "c1" .awaitingApproval with
      name := "restart", requiresApproval := true }
    let answer (id : String) := { Message.beginAssistant id 0 with
      segments := [.ofExecution call] }
    let us : List Update := [.messageFinalized (answer "a")]
    let u : Update := .messageUpdated (answer "b")
    ((answer "b").executions.map (·.callId)).Nodup ∧ call ∈ (answer "b").executions ∧
      (statuses "c1" (ofMessage "b" (noticesAll {} us))).getLast? = none ∧
      (renderAll {} us).2.notices u = [] ∧
      ((renderAll {} us).2.render u).1 = "\nassistant> " := by
  decide

end Dialogue.Terminal
