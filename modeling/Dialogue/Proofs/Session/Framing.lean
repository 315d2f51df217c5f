import Dialogue.Proofs.Session.History
import Dialogue.Proofs.Session.Writing

/-!
# What runs does not depend on what waits

Waiting input matters to a session only when the queue is drained. Nothing else that it
does depends on it, or on what was done to the outside before, and of the identifiers
still to come only those matter that are taken. So an operation does the same in a
session with another *frame* (`Session.framed`), which holds these three.

An operation that `Frames` takes so many identifiers and does certain things to the
outside, whatever the frame:

* `Frames.comp`: so does one operation after another;
* `frames_apply`: so does an event that is not terminal;
* `frames_completed`, `frames_failed`, `frames_rested`: so does the end of a stream;
* `frames_beginTurn`, `frames_beginContinuation`: so does opening one.
-/

namespace Dialogue

/-! ## Identifiers still to come -/

namespace Ids

variable {ids ids' : Ids}

/-- The supply after so many more identifiers were handed out. -/
def skip (ids : Ids) (n : Nat) : Ids :=
  { ids with used := ids.used + n }

/-- Two supplies hand out the same identifiers next, so many of them. -/
def AgreesFor (n : Nat) (ids ids' : Ids) : Prop :=
  ∀ k < n, ids.name (ids.used + k) = ids'.name (ids'.used + k)

theorem AgreesFor.refl (n : Nat) (ids : Ids) : ids.AgreesFor n ids :=
  fun _ _ => rfl

theorem AgreesFor.next (h : AgreesFor 1 ids ids') : ids.next = ids'.next :=
  h 0 Nat.one_pos

theorem AgreesFor.of_add {m n : Nat} (h : AgreesFor (m + n) ids ids') : AgreesFor m ids ids' :=
  fun k hk => h k (Nat.lt_of_lt_of_le hk (Nat.le_add_right m n))

theorem AgreesFor.skip {m n : Nat} (h : AgreesFor (m + n) ids ids') :
    AgreesFor n (ids.skip m) (ids'.skip m) := by
  intro k hk
  have hk := h (m + k) (Nat.add_lt_add_left hk m)
  rwa [← Nat.add_assoc, ← Nat.add_assoc] at hk

end Ids

/-- Appending text takes so many identifiers, and depends on no others. -/
theorem Message.appendText_agrees (m : Message) (text : String) :
    ∃ n, ∀ ids ids' : Ids, ids'.AgreesFor n ids →
      m.appendText ids' text = ((m.appendText ids text).1, ids'.skip n) := by
  by_cases ht : text = ""
  · refine ⟨0, fun ids ids' _ => ?_⟩
    rw [appendText, if_pos ht, appendText, if_pos ht]
    rfl
  · -- The last segment takes the text, or else a new one with an identifier of its own.
    cases he : Segment.extendLast? text m.segments with
    | some segments =>
      refine ⟨0, fun ids ids' _ => ?_⟩
      rw [appendText, if_neg ht, appendText, if_neg ht, he]
      rfl
    | none =>
      refine ⟨1, fun ids ids' ha => ?_⟩
      rw [appendText, if_neg ht, appendText, if_neg ht, he, ha.next]
      rfl

namespace Session

open Effect

variable {s : Session} {f g : Session → Session} {m n : Nat} {es fs : List Effect}

/-- The session with other input waiting, other identifiers to come and other effects
    before. -/
def framed (s : Session) (entries : List QueuedInput) (ids : Ids) (outbox : List Effect) :
    Session :=
  { s with queue := { s.queue with entries }, ids, outbox }

/-- An operation takes so many identifiers and does certain things to the outside, whatever
    the frame. It leaves waiting input alone, and takes no time. -/
structure Frames (f : Session → Session) (s : Session) (n : Nat) (es : List Effect) : Prop where
  outbox : (f s).outbox = s.outbox ++ es
  now : (f s).now = s.now
  framed : ∀ entries (ids : Ids) outbox, ids.AgreesFor n s.ids →
    f (s.framed entries ids outbox) = (f s).framed entries (ids.skip n) (outbox ++ es)

namespace Frames

/-- What the operation leaves has the frame of the session. -/
theorem eq_framed (h : Frames f s n es) :
    f s = (f s).framed s.queue.entries (s.ids.skip n) (s.outbox ++ es) :=
  h.framed s.queue.entries s.ids s.outbox (.refl n s.ids)

theorem entries (h : Frames f s n es) : (f s).queue.entries = s.queue.entries :=
  congrArg (·.queue.entries) h.eq_framed

theorem ids (h : Frames f s n es) : (f s).ids = s.ids.skip n :=
  congrArg Session.ids h.eq_framed

theorem refl (s : Session) : Frames (fun s => s) s 0 [] where
  outbox := (List.append_nil _).symm
  now := rfl
  framed entries ids outbox _ := by
    rw [List.append_nil]
    rfl

/-- One operation after another. -/
theorem comp (h : Frames f s m es) (h' : Frames g (f s) n fs) :
    Frames (fun s => g (f s)) s (m + n) (es ++ fs) where
  outbox := by rw [h'.outbox, h.outbox, List.append_assoc]
  now := h'.now.trans h.now
  framed entries ids outbox ha := by
    have hn : (ids.skip m).AgreesFor n (f s).ids := h.ids ▸ ha.skip
    rw [h.framed entries ids outbox ha.of_add, h'.framed entries _ _ hn, List.append_assoc,
      Ids.skip, Ids.skip, Ids.skip, Nat.add_assoc]

/-- What an operation does depends on what it does in every frame. -/
theorem congr (h : Frames f s n es)
    (hg : ∀ entries (ids : Ids) outbox, ids.AgreesFor n s.ids →
      g (s.framed entries ids outbox) = f (s.framed entries ids outbox)) : Frames g s n es := by
  have hs : g s = f s := hg s.queue.entries s.ids s.outbox (.refl n s.ids)
  refine ⟨hs ▸ h.outbox, hs ▸ h.now, fun entries ids outbox ha => ?_⟩
  rw [hg entries ids outbox ha, hs, h.framed entries ids outbox ha]

end Frames

/-! ## Opening a stream -/

theorem frames_openStream (s : Session) (kind : TurnKind) (request : Request)
    (resumed : Option Message) :
    ∃ es, Frames (fun s => s.openStream kind request resumed) s 0 es := by
  refine ⟨_, congrArg Session.outbox (s.openStream_eq kind request resumed), ?_,
    fun entries ids outbox _ => ?_⟩
  · rw [openStream_eq]
  · rw [openStream_eq, openStream_eq]
    rfl

theorem frames_withoutResumed (s : Session) : Frames withoutResumed s 0 [] :=
  ⟨(List.append_nil _).symm, rfl, fun _ _ _ _ => by rw [List.append_nil]; rfl⟩

theorem frames_beginContinuation (s : Session) (callId : String) (decision : Decision)
    (reason : Option String) :
    ∃ es, Frames (fun s => s.beginContinuation callId decision reason) s 0 es := by
  obtain ⟨es, he⟩ := frames_openStream s.withoutResumed .approvalContinuation
    (s.decisionRequest callId decision reason) s.transcript.takeLastAssistant.1
  exact ⟨_, (s.frames_withoutResumed.comp he).congr fun _ _ _ _ => rfl⟩

theorem inputMessage_framed {ids : Ids} (ha : ids.AgreesFor 1 s.ids) {content : String}
    {entries : List QueuedInput} {outbox : List Effect} :
    (s.framed entries ids outbox).inputMessage content = s.inputMessage content := by
  rw [inputMessage, inputMessage, ← ha.next]
  rfl

/-- The input of a turn takes an identifier. -/
theorem frames_withInput (s : Session) (content : String) :
    ∃ es, Frames (fun s => s.withInput content) s 1 es := by
  refine ⟨_, rfl, rfl, fun entries ids outbox ha => ?_⟩
  rw [withInput, inputMessage_framed ha]
  rfl

theorem frames_beginTurn (s : Session) (content : String) :
    ∃ es, Frames (fun s => s.beginTurn content) s 1 es := by
  obtain ⟨es, hi⟩ := s.frames_withInput content
  obtain ⟨fs, ho⟩ := frames_openStream (s.withInput content) .newTurn (s.turnRequest content) none
  refine ⟨_, (hi.comp ho).congr fun entries ids outbox ha => ?_⟩
  rw [beginTurn_eq, inputMessage_framed ha]
  rfl

/-! ## Ending a stream -/

theorem frames_completed (s : Session) (turn : ActiveTurn) (time : Option Count) :
    ∃ es, Frames (fun s => s.completed turn time) s 0 es :=
  ⟨_, rfl, rfl, fun _ _ _ _ => rfl⟩

theorem frames_failed (s : Session) (turn : ActiveTurn) (message : String) :
    ∃ es, Frames (fun s => s.failed turn message) s 0 es :=
  ⟨_, rfl, rfl, fun _ _ _ _ => rfl⟩

theorem frames_releaseImmediate (s : Session) : Frames releaseImmediate s 0 [] :=
  ⟨(List.append_nil _).symm, rfl, fun _ _ _ _ => by rw [List.append_nil]; rfl⟩

theorem frames_rested (s : Session) (outcome : Outcome) :
    ∃ es, Frames (fun s => s.rested outcome) s 0 es :=
  ⟨_, rfl, rfl, fun _ _ _ _ => rfl⟩

/-! ## Writing -/

theorem frames_updateCurrent (s : Session) (m : Message) :
    ∃ es, Frames (fun s => s.updateCurrent m) s 0 es := by
  refine ⟨_, congrArg Session.outbox (tellCurrent_eq { s with transcript := _ }), ?_,
    fun entries ids outbox _ => ?_⟩
  · rw [updateCurrent, tellCurrent_eq]
  · rw [updateCurrent, tellCurrent_eq, updateCurrent, tellCurrent_eq]
    rfl

theorem frames_recordUsage (s : Session) (delta : Usage) :
    ∃ es, Frames (fun s => s.recordUsage delta) s 0 es := by
  refine ⟨_, congrArg Session.outbox (s.recordUsage_eq delta), ?_, fun entries ids outbox _ => ?_⟩
  · rw [recordUsage_eq]
    rfl
  · rw [recordUsage_eq, recordUsage_eq]
    rfl

/-- An answer that is begun takes an identifier. -/
theorem frames_answering (s : Session) : Frames answering s 1 [] := by
  refine ⟨(List.append_nil _).symm, rfl, fun entries ids outbox ha => ?_⟩
  have hn : (s.framed entries ids outbox).ids.next = s.ids.next := ha.next
  rw [answering, hn, List.append_nil]
  rfl

/-- What is done with the message in progress, which takes an identifier if it is begun. -/
theorem frames_ensured (hb : s.transcript.BelongsTo s.generation)
    {f : Message → Session → Session}
    (hf : ∃ n es, Frames (f s.ensureCurrent.1) s.ensureCurrent.2 n es) :
    ∃ n es, Frames (fun s => f s.ensureCurrent.1 s.ensureCurrent.2) s n es := by
  obtain ⟨n, es, hf⟩ := hf
  cases hp : s.transcript.inProgress with
  | some p =>
    rw [ensureCurrent_of_some hb hp] at hf
    refine ⟨n, es, hf.congr fun entries ids outbox _ => ?_⟩
    rw [ensureCurrent_of_some (s := s.framed entries ids outbox) hb hp]
  | none =>
    -- The message is begun with the identifier that comes next in every frame.
    rw [ensureCurrent_of_none hp] at hf
    refine ⟨_, _, (s.frames_answering.comp hf).congr fun entries ids outbox ha => ?_⟩
    have hn : (s.framed entries ids outbox).ids.next = s.ids.next := ha.of_add.next
    rw [ensureCurrent_of_none (s := s.framed entries ids outbox) hp, hn]
    rfl

/-- The text may take an identifier of its own. -/
theorem frames_appendText_to (s : Session) (m : Message) (text : String) :
    ∃ n es, Frames (fun s => updateCurrent { s with ids := (m.appendText s.ids text).2 }
      (m.appendText s.ids text).1) s n es := by
  obtain ⟨n, hn⟩ := m.appendText_agrees text
  have hi : Frames (fun s => { s with ids := s.ids.skip n }) s n [] :=
    ⟨(List.append_nil _).symm, rfl, fun _ _ _ _ => by rw [List.append_nil]; rfl⟩
  obtain ⟨es, hu⟩ := frames_updateCurrent { s with ids := s.ids.skip n }
    (m.appendText s.ids text).1
  refine ⟨_, _, (hi.comp hu).congr fun entries ids outbox ha => ?_⟩
  rw [hn s.ids (s.framed entries ids outbox).ids ha]

theorem frames_appendText (hb : s.transcript.BelongsTo s.generation) (text : String) :
    ∃ n es, Frames (fun s => s.appendText text) s n es := by
  by_cases ht : text = ""
  · exact ⟨0, [], (Frames.refl s).congr fun _ _ _ _ => if_pos ht⟩
  · obtain ⟨n, es, h⟩ := frames_ensured hb (f := fun m s =>
      updateCurrent { s with ids := (m.appendText s.ids text).2 } (m.appendText s.ids text).1)
      (frames_appendText_to _ _ text)
    exact ⟨n, es, h.congr fun _ _ _ _ => if_neg ht⟩

/-- A message that did not change is not replaced. -/
theorem frames_updateCurrent_if (s : Session) (changed : Bool) (m : Message) :
    ∃ n es, Frames (fun s => if changed then s.updateCurrent m else s) s n es := by
  cases changed with
  | true => exact ⟨0, s.frames_updateCurrent m⟩
  | false => exact ⟨0, [], .refl s⟩

theorem frames_applyPending (hb : s.transcript.BelongsTo s.generation) (us : List ToolUpdate) :
    ∃ n es, Frames (fun s => s.applyPending us) s n es := by
  by_cases hu : us.isEmpty = true
  · exact ⟨0, [], (Frames.refl s).congr fun _ _ _ _ => if_pos hu⟩
  · obtain ⟨n, es, h⟩ := frames_ensured hb (f := fun m s =>
      if (m.applyPending us).1 then s.updateCurrent (m.applyPending us).2 else s)
      (frames_updateCurrent_if _ _ _)
    exact ⟨n, es, h.congr fun _ _ _ _ => if_neg hu⟩

theorem frames_applyTool (hb : s.transcript.BelongsTo s.generation) (kind : ToolEvent)
    (u : ToolUpdate) : ∃ n es, Frames (fun s => s.applyTool kind u) s n es := by
  by_cases hk : kind.createsSegment = true
  · obtain ⟨n, es, h⟩ := frames_ensured hb (f := fun m s =>
      if (m.applyUpdate u true).1.changed then s.updateCurrent (m.applyUpdate u true).2 else s)
      (frames_updateCurrent_if _ _ _)
    exact ⟨n, es, h.congr fun _ _ _ _ => if_pos hk⟩
  · cases hm : s.transcript.currentOf? s.generation with
    | none =>
      refine ⟨0, [], (Frames.refl s).congr fun entries ids outbox _ => ?_⟩
      have hm' : (s.framed entries ids outbox).transcript.currentOf?
          (s.framed entries ids outbox).generation = none := hm
      rw [applyTool, if_neg hk, hm']
    | some m =>
      obtain ⟨n, es, h⟩ := s.frames_updateCurrent_if (m.applyUpdate u false).1.changed
        (m.applyUpdate u false).2
      refine ⟨n, es, h.congr fun entries ids outbox _ => ?_⟩
      have hm' : (s.framed entries ids outbox).transcript.currentOf?
          (s.framed entries ids outbox).generation = some m := hm
      rw [applyTool, if_neg hk, hm']

/-- An event that is not terminal takes identifiers for what it begins. -/
theorem frames_apply (hb : s.transcript.BelongsTo s.generation) {e : TurnEvent}
    (he : e.isTerminal = false) : ∃ n es, Frames (fun s => s.apply e) s n es := by
  cases e with
  | ready runId =>
    exact ⟨0, [], (List.append_nil _).symm, rfl, fun _ _ _ _ => by rw [List.append_nil]; rfl⟩
  | token text => exact frames_appendText hb text
  | toolsPending us => exact frames_applyPending hb us
  | tool kind u => exact frames_applyTool hb kind u
  | usage report source =>
    by_cases hs : source = .main
    · obtain ⟨es, h⟩ := s.frames_recordUsage report
      exact ⟨0, es, h.congr fun _ _ _ _ => if_pos hs⟩
    · exact ⟨0, [], (Frames.refl s).congr fun _ _ _ _ => if_neg hs⟩
  | firstToken time => exact ⟨0, s.frames_recordUsage _⟩
  | completed time => exact absurd he Bool.noConfusion
  | error message => exact absurd he Bool.noConfusion

end Session

end Dialogue
