import Dialogue.Proofs.Session.History

/-!
# The log of queued input

What becomes of the input of a session, in order (`InputMark`): it is accepted into
the queue, removed from it, or asked about by the request of a turn, which takes
it from the queue or never let it wait (`Origin`).

A log *keeps* a queue (`Keeps`) if the queue is what the log leaves of it: entries
are accepted once, at the end, and leave one at a time. So

* every entry that was accepted is still queued, was removed, or was sent
  (`Keeps.count`);
* the entries drained from the queue and those still in it are in the order in
  which they were accepted (`Keeps.sublist`).
-/

namespace Dialogue

/-- Where the input of a turn comes from. -/
inductive Origin where
  /-- It did not wait. -/
  | direct (content : String)
  /-- It was taken from the queue out of order. -/
  | pulled (entry : QueuedInput)
  /-- It was the oldest in the queue. -/
  | drained (entry : QueuedInput)
  deriving DecidableEq, Repr

/-- The text that a turn is about. -/
def Origin.content : Origin → String
  | .direct content => content
  | .pulled entry | .drained entry => entry.content

/-- What becomes of input. -/
inductive InputMark where
  | accepted (entry : QueuedInput)
  /-- It is handed back. -/
  | removed (entry : QueuedInput)
  /-- A turn asks about it, with all messages so far. -/
  | asked (origin : Origin) (messages : List Message)
  deriving DecidableEq, Repr

/-- What a reply says about queued input. -/
def InputMark.ofReply : Option (Except Error Reply) → List InputMark
  | some (.ok (.submitted (.queued entry))) => [.accepted entry]
  | some (.ok (.entry entry)) => [.removed entry]
  | _ => []

/-- The messages that turns ask about. -/
def Effect.turnRequests (es : List Effect) : List (List Message) :=
  es.filterMap fun | .opened _ (.newTurn _ messages) => some messages | _ => none

/-- Where the input of a turn that an input starts comes from: text that is submitted
    and starts at once, text that starts a turn, the entry that is started out of
    order, and in any other case the oldest entry. -/
def Session.origin? (s : Session) : Input → Option (Except Error Reply) → Option Origin
  | .command (.submit content), some (.ok (.submitted .started)) => some (.direct content)
  | .command (.startTurn content), _ => some (.direct content)
  | .command (.submitNow id), _ => (s.queue.entries.find? (·.id == id)).map .pulled
  | _, _ => s.queue.entries.head?.map .drained

/-- What requests do to input of an origin. -/
def InputMark.ofRequests (origin : Option Origin) (requests : List (List Message)) :
    List InputMark :=
  requests.filterMap fun messages => origin.map (.asked · messages)

theorem InputMark.ofRequests_singleton (origin : Origin) (messages : List Message) :
    InputMark.ofRequests (some origin) [messages] = [.asked origin messages] := rfl

/-- What becomes of input in one step: what the reply says comes first, then what the
    session asks. -/
def Transition.inputMarks (t : Transition) : List InputMark :=
  InputMark.ofReply t.reply ++
    InputMark.ofRequests (t.before.origin? t.input t.reply) (Effect.turnRequests t.effects)

/-- What becomes of the input of a session. -/
def Session.inputLog (s : Session) (inputs : List Input) : List InputMark :=
  (s.history inputs).flatMap Transition.inputMarks

/-- A request asks about a text: the last message is the user's, and has that text. -/
def AsksAbout (messages : List Message) (content : String) : Prop :=
  ∃ m, messages.getLast? = some m ∧ m.role = .user ∧ m.content = content

namespace InputLog

/-- The entries that were accepted. -/
def accepted (log : List InputMark) : List QueuedInput :=
  log.filterMap fun | .accepted entry => some entry | _ => none

/-- The entries that were handed back. -/
def removed (log : List InputMark) : List QueuedInput :=
  log.filterMap fun | .removed entry => some entry | _ => none

/-- The entries that a turn was started for. -/
def sent (log : List InputMark) : List QueuedInput :=
  log.filterMap fun
    | .asked (.pulled entry) _ | .asked (.drained entry) _ => some entry
    | _ => none

/-- The entries that a turn was started for in order. -/
def drained (log : List InputMark) : List QueuedInput :=
  log.filterMap fun | .asked (.drained entry) _ => some entry | _ => none

/-- What turns asked about, and with which messages. -/
def asked (log : List InputMark) : List (Origin × List Message) :=
  log.filterMap fun | .asked origin messages => some (origin, messages) | _ => none

/-! ## One mark more -/

theorem accepted_append (log log' : List InputMark) :
    accepted (log ++ log') = accepted log ++ accepted log' :=
  List.filterMap_append

theorem removed_append (log log' : List InputMark) :
    removed (log ++ log') = removed log ++ removed log' :=
  List.filterMap_append

theorem sent_append (log log' : List InputMark) : sent (log ++ log') = sent log ++ sent log' :=
  List.filterMap_append

theorem drained_append (log log' : List InputMark) :
    drained (log ++ log') = drained log ++ drained log' :=
  List.filterMap_append

theorem asked_append (log log' : List InputMark) : asked (log ++ log') = asked log ++ asked log' :=
  List.filterMap_append

theorem accepted_concat {log : List InputMark} {mark : InputMark} (h : accepted [mark] = []) :
    accepted (log ++ [mark]) = accepted log := by
  rw [accepted_append, h, List.append_nil]

theorem asked_concat {log : List InputMark} {mark : InputMark} (h : asked [mark] = []) :
    asked (log ++ [mark]) = asked log := by
  rw [asked_append, h, List.append_nil]

theorem drained_concat {log : List InputMark} {mark : InputMark} (h : drained [mark] = []) :
    drained (log ++ [mark]) = drained log := by
  rw [drained_append, h, List.append_nil]

/-! ## What a log keeps -/

/-- A log leaves a queue: entries are accepted once and at the end, one that leaves the
    queue is removed or sent, and only the oldest is drained. -/
inductive Keeps : List InputMark → List QueuedInput → Prop
  | start : Keeps [] []
  | accepted {log : List InputMark} {queue : List QueuedInput} {entry : QueuedInput} :
      Keeps log queue → entry ∉ accepted log → Keeps (log ++ [.accepted entry]) (queue ++ [entry])
  | removed {log : List InputMark} {before after : List QueuedInput} {entry : QueuedInput} :
      Keeps log (before ++ entry :: after) → Keeps (log ++ [.removed entry]) (before ++ after)
  | direct {log : List InputMark} {queue : List QueuedInput} {content : String}
      {messages : List Message} :
      Keeps log queue → Keeps (log ++ [.asked (.direct content) messages]) queue
  | pulled {log : List InputMark} {before after : List QueuedInput} {entry : QueuedInput}
      {messages : List Message} : Keeps log (before ++ entry :: after) →
      Keeps (log ++ [.asked (.pulled entry) messages]) (before ++ after)
  | drained {log : List InputMark} {queue : List QueuedInput} {entry : QueuedInput}
      {messages : List Message} : Keeps log (entry :: queue) →
      Keeps (log ++ [.asked (.drained entry) messages]) queue

namespace Keeps

variable {log : List InputMark} {queue : List QueuedInput}

/-- Nothing is accepted twice. -/
theorem nodup (h : Keeps log queue) : (InputLog.accepted log).Nodup := by
  induction h with
  | start => exact List.nodup_nil
  | accepted _ hn ih =>
    rw [accepted_append]
    refine List.nodup_append.2 ⟨ih, List.pairwise_singleton _ _, fun a ha b hb hab => hn ?_⟩
    rwa [← List.mem_singleton.1 hb, ← hab]
  | removed _ ih | direct _ ih | pulled _ ih | drained _ ih => rwa [accepted_concat rfl]

/-- As often as an entry was accepted, it is queued, was removed or was sent. -/
theorem count_eq (h : Keeps log queue) (entry : QueuedInput) :
    (InputLog.accepted log).count entry =
      queue.count entry + (InputLog.removed log).count entry + (sent log).count entry := by
  induction h with
  | start => rfl
  | accepted _ _ ih | removed _ ih | direct _ ih | pulled _ ih | drained _ ih =>
    -- What the mark adds to one of the lists is what the queue gains or loses.
    rw [accepted_append, removed_append, sent_append]
    simp only [List.count_append, ih, List.count_cons]
    simp only [InputLog.accepted, InputLog.removed, sent, List.filterMap_cons, List.filterMap_nil,
      List.count_nil, List.count_cons]
    omega

/-- Entries are drained in the order in which they were accepted, and before those that
    are still queued. -/
theorem sublist (h : Keeps log queue) :
    (InputLog.drained log ++ queue).Sublist (InputLog.accepted log) := by
  induction h with
  | start => exact List.Sublist.refl _
  | accepted _ _ ih =>
    rw [accepted_append, drained_concat rfl, ← List.append_assoc]
    exact ih.append (List.Sublist.refl _)
  | removed _ ih | pulled _ ih =>
    rw [accepted_concat rfl, drained_concat rfl]
    refine List.Sublist.trans ?_ ih
    exact (List.Sublist.refl _).append ((List.Sublist.refl _).append (List.sublist_cons_self _ _))
  | direct _ ih => rwa [accepted_concat rfl, drained_concat rfl]
  | drained _ ih => rwa [accepted_concat rfl, drained_append, List.append_assoc]

end Keeps

end InputLog

end Dialogue
