import Dialogue.Proofs.Session.Operations

/-!
# Histories of a session

What becomes of a session is a list of inputs (`Session.run`). Its *history* is
that list with what each input met and what came of it: the session before, the
reply, and the effects (`Transition`).

* `run_induction`, `history_induction`: what the start satisfies and every input
  keeps holds after any inputs;
* `acts_interrupt`, `acts_openStream`: what an operation does to the outside, apart
  from telling (`Acts`). It is what counts of the effects of a transition
  (`Acts.effects`).
-/

namespace Dialogue

/-- One input to a session and what came of it. -/
structure Transition where
  before : Session
  input : Input
  /-- The reply, if the input is a command. -/
  reply : Option (Except Error Reply)
  /-- What the input did to the outside. -/
  effects : List Effect

/-! ## Effects apart from telling -/

namespace Effect

/-- Whether an effect is to tell. -/
def isTelling : Effect → Bool
  | .told _ => true
  | _ => false

/-- What effects do apart from telling. -/
def acts (es : List Effect) : List Effect :=
  es.filter (!·.isTelling)

theorem acts_append (as bs : List Effect) : acts (as ++ bs) = acts as ++ acts bs :=
  List.filter_append as bs

theorem acts_tellings (us : List Update) : acts (tellings us) = [] := by
  rw [acts, tellings, List.filter_map, List.map_eq_nil_iff, List.filter_eq_nil_iff]
  exact fun _ _ => Bool.noConfusion

theorem acts_cons_opened (generation : Nat) (request : Request) (es : List Effect) :
    acts (.opened generation request :: es) = .opened generation request :: acts es := rfl

theorem acts_cons_cancelled (generation : Nat) (es : List Effect) :
    acts (.cancelled generation :: es) = .cancelled generation :: acts es := rfl

theorem acts_stops (conversationId : String) (runIds : List String) :
    acts (runIds.map (.stopRequested conversationId)) =
      runIds.map (.stopRequested conversationId) := by
  rw [acts, List.filter_eq_self]
  intro e he
  obtain ⟨runId, _, rfl⟩ := List.mem_map.1 he
  rfl

end Effect

namespace Session

open Effect

/-- What an input does to a session. -/
def transition (s : Session) (i : Input) : Transition where
  before := s
  input := i
  reply := (s.react i).1
  effects := (s.react i).2.outbox.drop s.outbox.length

/-- What inputs do to a session, one after the other. -/
def history (s : Session) : List Input → List Transition
  | [] => []
  | i :: inputs => s.transition i :: (s.react i).2.history inputs

theorem run_append (s : Session) (inputs later : List Input) :
    s.run (inputs ++ later) = (s.run inputs).run later :=
  List.foldl_append

theorem run_concat (s : Session) (inputs : List Input) (i : Input) :
    s.run (inputs ++ [i]) = ((s.run inputs).react i).2 :=
  run_append s inputs [i]

theorem history_append (s : Session) (inputs later : List Input) :
    s.history (inputs ++ later) = s.history inputs ++ (s.run inputs).history later := by
  induction inputs generalizing s with
  | nil => rfl
  | cons i inputs ih =>
    rw [List.cons_append, history, ih, history]
    rfl

/-! ## Induction -/

/-- What holds at first and is kept by every input holds after all of them. -/
theorem run_induction {P : Session → Prop} {s : Session} {inputs : List Input} (start : P s)
    (step : ∀ s i, i ∈ inputs → P s → P (s.react i).2) : P (s.run inputs) := by
  induction inputs generalizing s with
  | nil => exact start
  | cons i inputs ih =>
    exact ih (step s i List.mem_cons_self start)
      fun s j hj => step s j (List.mem_cons_of_mem i hj)

/-- The same for what is said of a session and its history so far. -/
theorem history_induction {P : List Transition → Session → Prop} {s : Session}
    {inputs : List Input} (start : P [] s)
    (step : ∀ h s i, i ∈ inputs → P h s → P (h ++ [s.transition i]) (s.react i).2) :
    P (s.history inputs) (s.run inputs) := by
  -- The induction is on what is still to come, with any history before it.
  suffices h : ∀ past, P past s → P (past ++ s.history inputs) (s.run inputs) from h [] start
  clear start
  induction inputs generalizing s with
  | nil =>
    intro past hp
    rw [history, List.append_nil]
    exact hp
  | cons i inputs ih =>
    intro past hp
    have := ih (s := (s.react i).2) (fun h s j hj => step h s j (List.mem_cons_of_mem i hj))
      (past ++ [s.transition i]) (step past s i List.mem_cons_self hp)
    rwa [List.append_assoc] at this

/-! ## Acts -/

/-- From one session to another the outbox grew, and apart from telling this is what
    was done to the outside. -/
def Acts (s s' : Session) (as : List Effect) : Prop :=
  ∃ es, s'.outbox = s.outbox ++ es ∧ acts es = as

variable {s s' s'' : Session} {as bs : List Effect}

theorem Acts.trans (h : s.Acts s' as) (h' : s'.Acts s'' bs) : s.Acts s'' (as ++ bs) := by
  obtain ⟨es, he, ha⟩ := h
  obtain ⟨fs, hf, hb⟩ := h'
  exact ⟨es ++ fs, by rw [hf, he, List.append_assoc], by rw [acts_append, ha, hb]⟩

/-- Nothing was done but to tell. -/
theorem acts_of_tellings {us : List Update} (h : s'.outbox = s.outbox ++ tellings us) :
    s.Acts s' [] :=
  ⟨_, h, acts_tellings us⟩

theorem acts_of_outbox_eq (h : s'.outbox = s.outbox) : s.Acts s' [] :=
  ⟨[], by rw [h, List.append_nil], rfl⟩

theorem Acts.of_outbox_eq (h : s'.Acts s'' as) (ho : s'.outbox = s.outbox) : s.Acts s'' as :=
  (acts_of_outbox_eq ho).trans h

theorem Continues.acts (h : s.Continues s') : s.Acts s' [] :=
  h.told.elim fun _ => acts_of_tellings

variable (s)

theorem acts_tell (u : Update) : s.Acts (s.tell u) [] := by
  rw [tell_eq]
  exact acts_of_tellings rfl

theorem acts_setPhase (p : Phase) : s.Acts (s.setPhase p) [] := by
  rw [setPhase_eq]
  exact acts_of_tellings rfl

/-- Opening a stream is one act. -/
theorem acts_openStream (kind : TurnKind) (request : Request) (resumed : Option Message) :
    s.Acts (s.openStream kind request resumed) [.opened (s.generation + 1) request] := by
  rw [openStream_eq]
  refine ⟨_, rfl, ?_⟩
  rw [acts_append, acts_tellings, acts_cons_opened, acts_tellings]
  rfl

/-- The request for an answer to all input so far. -/
def turnRequest (s : Session) (content : String) : Request :=
  .newTurn s.conversationId (s.transcript.finalized ++ [s.inputMessage content])

theorem acts_beginTurn (content : String) :
    s.Acts (s.beginTurn content) [.opened (s.generation + 1) (s.turnRequest content)] := by
  have h : s.Acts (s.withInput content) [] := acts_of_tellings rfl
  rw [beginTurn_eq]
  exact h.trans (acts_openStream (s.withInput content) _ _ _)

theorem acts_beginContinuation (callId : String) (decision : Decision) (reason : Option String) :
    s.Acts (s.beginContinuation callId decision reason)
      [.opened (s.generation + 1) (s.decisionRequest callId decision reason)] := by
  rw [beginContinuation_eq]
  exact (acts_openStream s.withoutResumed _ _ _).of_outbox_eq rfl

/-- What interrupting does, apart from telling: it gives up the stream of the turn,
    and asks the server to stop the run. -/
def interruptActs (s : Session) : List Effect :=
  match s.turn with
  | some turn =>
    .cancelled turn.generation :: turn.runId.toList.map (.stopRequested s.conversationId)
  | none => []

theorem acts_interrupt : s.Acts s.interrupt s.interruptActs := by
  cases ht : s.turn with
  | none =>
    rw [interrupt_of_noTurn ht, interruptActs, ht]
    exact acts_of_outbox_eq rfl
  | some turn =>
    rw [interrupt_eq ht, interruptActs, ht]
    refine ⟨_, rfl, ?_⟩
    rw [acts_cons_cancelled, acts_append, acts_stops, acts_tellings, List.append_nil]

/-- What an input does to the outside is to tell, and the acts of the operation that it
    calls. -/
theorem Acts.effects {i : Input} (h : s.Acts (s.react i).2 as) :
    (s.react i).2.outbox = s.outbox ++ (s.transition i).effects ∧
      acts (s.transition i).effects = as := by
  obtain ⟨es, ho, ha⟩ := h
  -- The outbox only grows, so that what is new in it is what was added.
  have he : (s.transition i).effects = es := by
    rw [transition, ho]
    exact List.drop_left
  rw [he]
  exact ⟨ho, ha⟩

end Session

end Dialogue
