import Dialogue.Proofs.Session.Sparing

/-!
# The log of the turns

What becomes of the stream of a turn: it completes, it fails, it is cancelled, or it is
followed by the next continuation of a bulk decision (`Fate`). Each fate is two marks
(`Fate.marks`): what came over the stream, and what the session did about it before
anything else, which is to announce how the turn ended or to open the next continuation.

In a log in which streams *follow* each other (`TurnLog.Follows`), a stream is opened only
when none is open, and an open one stays open or meets a fate. So

* each stream that is opened has exactly one fate, unless it is still open, and that
  stands before anything that is opened later (`Follows.fate_of_opened`);
* whatever is announced is the fate of a stream that was opened (`Follows.opened_of_announced`).

`Transition.Brings` says which input brings which fate.
-/

namespace Dialogue

/-- What becomes of turns. -/
inductive TurnMark where
  /-- A stream is opened. -/
  | opened (generation : Nat) (request : Request)
  /-- A stream completes. -/
  | completed (generation : Nat)
  /-- A stream fails. -/
  | failed (generation : Nat) (message : String)
  /-- A stream is given up. -/
  | cancelled (generation : Nat)
  /-- How a turn ended is told. -/
  | announced (outcome : Outcome)
  deriving DecidableEq, Repr

/-- How a turn ended, if an update tells it. -/
def Update.outcome? : Update → Option Outcome
  | .turnFinished outcome => some outcome
  | _ => none

namespace Effect

/-- What an effect does to a turn. -/
def turnMark? : Effect → Option TurnMark
  | .opened generation request => some (.opened generation request)
  | .cancelled generation => some (.cancelled generation)
  | .told u => u.outcome?.map .announced
  | .stopRequested .. => none

/-- The outcomes that effects tell. -/
def outcomes (es : List Effect) : List Outcome :=
  (updates es).filterMap Update.outcome?

end Effect

/-- The terminal event that a transition applies, if it does. -/
def Transition.terminal (t : Transition) : List TurnMark :=
  match t.input with
  | .event ⟨generation, .completed _⟩ =>
    if t.before.isLive generation then [.completed generation] else []
  | .event ⟨generation, .error message⟩ =>
    if t.before.isLive generation then [.failed generation message] else []
  | _ => []

/-- What becomes of turns in one step: the event that was applied comes first, then what
    the session does about it. -/
def Transition.turnMarks (t : Transition) : List TurnMark :=
  t.terminal ++ t.effects.filterMap Effect.turnMark?

/-- What becomes of the turns of a session, given its inputs. -/
def Session.turnLog (s : Session) (inputs : List Input) : List TurnMark :=
  (s.history inputs).flatMap Transition.turnMarks

/-! ## Fates -/

/-- What can become of a stream. -/
inductive Fate where
  | completed
  | failed (message : String)
  | cancelled
  /-- The next continuation of a bulk decision follows. -/
  | advanced (generation : Nat) (request : Request)
  deriving DecidableEq, Repr

namespace Fate

/-- The marks that a stream with a fate ends with. -/
def marks (generation : Nat) : Fate → List TurnMark
  | .completed => [.completed generation, .announced .completed]
  | .failed message => [.failed generation message, .announced (.failed message)]
  | .cancelled => [.cancelled generation, .announced .cancelled]
  | .advanced next request => [.completed generation, .opened next request]

/-- The stream that is open after a fate. -/
def next? : Fate → Option Nat
  | .advanced next _ => some next
  | _ => none

theorem length_marks (generation : Nat) (fate : Fate) : (fate.marks generation).length = 2 := by
  cases fate <;> rfl

theorem marks_injective (generation : Nat) : Function.Injective (marks generation) := by
  intro fate fate' h
  cases fate <;> cases fate' <;> simp_all [marks]

/-- A list begins with the marks of one fate at most. -/
theorem eq_of_marks_isPrefix {generation : Nat} {fate fate' : Fate} {log : List TurnMark}
    (h : fate.marks generation <+: log) (h' : fate'.marks generation <+: log) : fate = fate' := by
  have hl := (fate.length_marks generation).trans (fate'.length_marks generation).symm
  have hp := List.prefix_of_prefix_length_le h h' (Nat.le_of_eq hl)
  exact marks_injective generation (hp.eq_of_length hl)

/-- No fate begins with an opening or an announcement, and one ends with an opening exactly
    if that stream is open after it. -/
theorem marks_cases (generation : Nat) (fate : Fate) : ∃ first second,
    fate.marks generation = [first, second] ∧ (∀ g r, first ≠ .opened g r) ∧
      (∀ o, first ≠ .announced o) ∧ ∀ g, fate.next? = some g ↔ ∃ r, second = .opened g r := by
  cases fate with
  | completed => exact ⟨_, _, rfl, nofun, nofun, fun g => ⟨nofun, nofun⟩⟩
  | failed message => exact ⟨_, _, rfl, nofun, nofun, fun g => ⟨nofun, nofun⟩⟩
  | cancelled => exact ⟨_, _, rfl, nofun, nofun, fun g => ⟨nofun, nofun⟩⟩
  | advanced next request =>
    refine ⟨_, _, rfl, nofun, nofun, fun g => ⟨?_, ?_⟩⟩
    · rintro ⟨⟩
      exact ⟨request, rfl⟩
    · rintro ⟨r, ⟨⟩⟩
      rfl

end Fate

/-- Whether a transition completes a continuation of a bulk decision that is not the last. -/
def Transition.advancesBulk (t : Transition) : Bool :=
  t.completes && t.before.approvals.progress.any fun p => p.completed + 1 < p.total

/-- A transition brings a fate to the stream of the turn: its completion, which the next call
    of a bulk decision follows if there is one, its failure, or a command that interrupts
    it. -/
inductive Transition.Brings (t : Transition) : Fate → Prop
  | completed : t.completes = true → t.advancesBulk = false → Brings t .completed
  | failed {generation : Nat} {message : String} :
      t.input = .event ⟨generation, .error message⟩ → t.before.isLive generation = true →
      Brings t (.failed message)
  | cancelled {c : Command} {r : Reply} : t.input = .command c → c.interrupts = true →
      t.reply = some (.ok r) → t.before.turn ≠ none → Brings t .cancelled
  | advanced {p : Progress} {callId : String} {waiting : List String} :
      t.completes = true → t.advancesBulk = true →
      t.before.approvals = ⟨callId :: waiting, some p⟩ →
      Brings t (.advanced (t.before.generation + 1)
        (t.before.decisionRequest callId p.decision none))

namespace TurnLog

/-- The streams that were opened. -/
def opened (log : List TurnMark) : List (Nat × Request) :=
  log.filterMap fun | .opened generation request => some (generation, request) | _ => none

/-- The outcomes that were announced. -/
def announced (log : List TurnMark) : List Outcome :=
  log.filterMap fun | .announced outcome => some outcome | _ => none

theorem opened_append (log log' : List TurnMark) :
    opened (log ++ log') = opened log ++ opened log' :=
  List.filterMap_append

theorem announced_append (log log' : List TurnMark) :
    announced (log ++ log') = announced log ++ announced log' :=
  List.filterMap_append

/-- From one stream that is open, or none, to another, streams follow each other. -/
inductive Follows : Option Nat → List TurnMark → Option Nat → Prop
  | nil {current : Option Nat} : Follows current [] current
  | opened {generation : Nat} {request : Request} {log : List TurnMark} {last : Option Nat} :
      Follows (some generation) log last → Follows none (.opened generation request :: log) last
  | fate {generation : Nat} {fate : Fate} {log : List TurnMark} {last : Option Nat} :
      Follows fate.next? log last → Follows (some generation) (fate.marks generation ++ log) last

namespace Follows

variable {current middle last : Option Nat} {log log' before after : List TurnMark}
  {generation : Nat} {request : Request} {outcome : Outcome}

theorem append (h : Follows current log middle) (h' : Follows middle log' last) :
    Follows current (log ++ log') last := by
  induction h with
  | nil => exact h'
  | opened _ ih => exact .opened (ih h')
  | fate _ ih =>
    rw [List.append_assoc]
    exact .fate (ih h')

/-- An open stream stays open, or what comes first is its fate. -/
theorem of_some (h : Follows (some generation) log last) :
    (log = [] ∧ last = some generation) ∨ ∃! fate : Fate, fate.marks generation <+: log := by
  cases h with
  | nil => exact .inl ⟨rfl, rfl⟩
  | @fate _ fate log _ _ =>
    have hp : fate.marks generation <+: fate.marks generation ++ log := List.prefix_append _ _
    exact .inr ⟨fate, hp, fun fate' hp' => Fate.eq_of_marks_isPrefix hp' hp⟩

/-- A stream is open after it was opened. -/
theorem after_opened (h : Follows current log last)
    (hl : log = before ++ .opened generation request :: after) :
    Follows (some generation) after last := by
  induction h generalizing before with
  | nil => exact absurd hl.symm (List.append_ne_nil_of_right_ne_nil _ (List.cons_ne_nil _ _))
  | opened h ih =>
    cases before with
    | nil =>
      obtain ⟨hm, rfl⟩ := List.cons.inj hl
      obtain ⟨rfl, _⟩ := TurnMark.opened.inj hm
      exact h
    | cons mark before => exact ih (List.cons.inj hl).2
  | @fate g fate log _ h ih =>
    -- The mark can only be the last one of the fate, or come later.
    obtain ⟨first, second, hm, hf, _, hs⟩ := fate.marks_cases g
    rw [hm] at hl
    match before, hl with
    | [], hl => exact absurd (List.cons.inj hl).1 (hf _ _)
    | [_], hl =>
      obtain ⟨ho, rfl⟩ := List.cons.inj (List.cons.inj hl).2
      rwa [← (hs _).2 ⟨_, ho⟩]
    | _ :: _ :: before, hl => exact ih (List.cons.inj (List.cons.inj hl).2).2

/-- Each stream that is opened is still open, or it has exactly one fate, and that is what
    comes first of all that comes later. -/
theorem fate_of_opened (h : Follows current log last)
    (hl : log = before ++ .opened generation request :: after) :
    (after = [] ∧ last = some generation) ∨ ∃! fate : Fate, fate.marks generation <+: after :=
  (h.after_opened hl).of_some

/-- Whatever is announced is the fate of a stream that was opened just before. If a stream is
    open at first, its opening is the last of what leads up to the log. -/
theorem opened_of_announced (h : Follows current log last)
    (hl : log = before ++ .announced outcome :: after) (lead : List TurnMark)
    (hc : ∀ g ∈ current, ∃ earlier r, lead = earlier ++ [.opened g r]) :
    ∃ earlier g r fate,
      lead ++ before ++ [.announced outcome] = earlier ++ .opened g r :: Fate.marks g fate := by
  induction h generalizing lead before with
  | nil => exact absurd hl.symm (List.append_ne_nil_of_right_ne_nil _ (List.cons_ne_nil _ _))
  | @opened g r _ _ _ ih =>
    cases before with
    | nil => exact nomatch (List.cons.inj hl).1
    | cons mark before =>
      obtain ⟨rfl, hlog⟩ := List.cons.inj hl
      have := ih hlog (lead ++ [.opened g r])
        fun g' hg => ⟨lead, r, by rw [Option.some.inj hg]⟩
      rwa [List.append_assoc lead, List.singleton_append] at this
  | @fate g fate log _ _ ih =>
    obtain ⟨first, second, hm, _, ha, hs⟩ := fate.marks_cases g
    rw [hm] at hl
    match before, hl with
    | [], hl => exact absurd (List.cons.inj hl).1 (ha _)
    | [_], hl =>
      obtain ⟨earlier, r, rfl⟩ := hc g rfl
      obtain ⟨rfl, hrest⟩ := List.cons.inj hl
      obtain ⟨rfl, _⟩ := List.cons.inj hrest
      refine ⟨earlier, g, r, fate, ?_⟩
      simp only [hm, List.append_assoc, List.cons_append, List.nil_append]
    | _ :: _ :: before, hl =>
      obtain ⟨rfl, hrest⟩ := List.cons.inj hl
      obtain ⟨rfl, hlog⟩ := List.cons.inj hrest
      have := ih hlog (lead ++ [first, second]) fun g' hg => by
        obtain ⟨r, rfl⟩ := (hs g').1 hg
        exact ⟨lead ++ [first], r, (List.append_assoc lead [first] _).symm⟩
      rwa [List.append_assoc lead] at this

end Follows

end TurnLog

end Dialogue
