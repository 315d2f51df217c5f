import Dialogue.Session
import Dialogue.Text.Blank

/-!
# What a session does

Commands and events, one at a time. The pieces come first: telling watchers,
keeping the account, opening a stream, and the three ways in which a stream ends:
it completes, it fails, or it is interrupted. Each of them finalizes the message
in progress and announces how the turn ended before anything new is opened.

A command that is refused leaves the session as it was.
-/

namespace Dialogue.Session

/-! ## Telling -/

/-- Do something to the outside. -/
def emit (s : Session) (e : Effect) : Session :=
  { s with outbox := s.outbox ++ [e] }

/-- Tell the watchers something. -/
def tell (s : Session) (u : Update) : Session :=
  s.emit (.told u)

/-- Tell the message in progress, if there is one. -/
def tellCurrent (s : Session) : Session :=
  match s.transcript.current? with
  | some m => s.tell (.messageUpdated m)
  | none => s

/-- Tell what is queued. -/
def tellQueue (s : Session) : Session :=
  s.tell (.queueChanged s.queue.entries)

/-- Tell the account. -/
def tellUsage (s : Session) : Session :=
  s.tell (.usageTick s.usage s.sessionUsage)

/-- Enter a phase, and tell so if it is another one. -/
def setPhase (s : Session) (p : Phase) : Session :=
  if s.phase = p then s else tell { s with phase := p } (.stateChanged p)

/-! ## Opening streams -/

/-- Open the stream of the next generation, continuing a message if one is
    given. -/
def openStream (s : Session) (kind : TurnKind) (request : Request)
    (resumed : Option Message) : Session :=
  let s := { s with
    generation := s.generation + 1
    usage := .empty
    throttle := s.throttle.reset
    lastError := none }
  let s := match resumed with
    | some m =>
      tellCurrent { s with transcript := s.transcript.resume s.generation m }
    | none => s
  let s := s.emit (.opened s.generation request)
  let s := { s with
    turn := some {
      kind
      generation := s.generation
      startedAt := s.now
      baseUsage := (resumed.bind (·.usage)).getD .empty } }
  s.setPhase (if s.approvals.isDraining then .drainingApprovals else .streaming)

/-- Add input to the transcript and ask for an answer. -/
def beginTurn (s : Session) (content : String) : Session :=
  let m := Message.ofUser s.ids.next content s.now
  let s := { s with transcript := s.transcript.push m, ids := s.ids.advance }
  let s := s.tell (.messageFinalized m)
  s.openStream .newTurn (.newTurn s.conversationId s.transcript.finalized) none

/-- Report a decision and ask for the rest of the answer, continuing the last
    message if it is the assistant's. -/
def beginContinuation (s : Session) (callId : String) (decision : Decision)
    (reason : Option String) : Session :=
  let (resumed, transcript) := s.transcript.takeLastAssistant
  openStream { s with transcript } .approvalContinuation
    (.approvalContinuation s.conversationId callId decision.isApprove reason) resumed

/-- Start the oldest queued input, if nothing stands in the way. -/
def drainQueue (s : Session) : Session :=
  if s.phase.isBusy || s.turn.isSome || s.queue.immediate then s
  else
    match s.queue.popFront? with
    | none => s
    | some (entry, queue) => beginTurn (tellQueue { s with queue }) entry.content

/-! ## Ending streams -/

/-- Finalize the message in progress with what it used in all, and tell the
    account. -/
def finalizeCurrent (s : Session) (base : Usage) : Session :=
  let (finished, transcript) := s.transcript.finalize (some (Usage.combine base s.usage))
  let s := { s with transcript }
  let s := match finished with
    | some m => s.tell (.messageFinalized m)
    | none => s
  tellUsage { s with throttle := s.throttle.reset }

/-- Give up a bulk decision, and tell so if there was one. -/
def abortApprovals (s : Session) : Session :=
  let (progress, approvals) := s.approvals.abort
  let s := { s with approvals }
  if progress.isSome then s.tell (.approvalProgress none) else s

/-- Give the latch of the queue back. -/
def releaseImmediate (s : Session) : Session :=
  { s with queue := s.queue.releaseImmediate }

/-- Announce the end of a turn, go idle and start what is queued. -/
def settle (s : Session) (outcome : Outcome) : Session :=
  ((s.tell (.turnFinished outcome)).setPhase .idle).drainQueue

/-- Interrupt the active turn: give up its stream, keep what it wrote, and move
    on to a generation that no event of it has. -/
def interrupt (s : Session) : Session :=
  match s.turn with
  | none => s
  | some turn =>
    let s := { s with turn := none }
    let s := s.emit (.cancelled turn.generation)
    let s := match turn.runId with
      | some runId => s.emit (.stopRequested s.conversationId runId)
      | none => s
    let s := (s.finalizeCurrent turn.baseUsage).abortApprovals
    tell { s with generation := s.generation + 1 } (.turnFinished .cancelled)

/-- The active turn is complete. The next call of a bulk decision goes first, then
    queued input. -/
def complete (s : Session) (time : Option Count) : Session :=
  match s.turn with
  | none => s
  | some turn =>
    let time := time.getD (Count.ofNat (s.now - turn.startedAt))
    let s := { s with turn := none, usage := s.usage.merge (.ofResponse time) }
    let s := s.finalizeCurrent turn.baseUsage
    let (step, approvals) := s.approvals.complete
    let s := { s with approvals }
    match step with
    | .next callId decision progress =>
      (s.tell (.approvalProgress (some progress))).beginContinuation callId decision none
    | .finished progress =>
      (((s.tell (.approvalProgress (some progress))).tell
        (.approvalProgress none)).releaseImmediate).settle .completed
    | .idle => s.releaseImmediate.settle .completed

/-- The active turn has failed. -/
def fail (s : Session) (message : String) : Session :=
  match s.turn with
  | none => s
  | some turn =>
    let s := { s with turn := none }
    let s := ((s.finalizeCurrent turn.baseUsage).abortApprovals).releaseImmediate
    settle { s with lastError := some message } (.failed message)

/-! ## Events -/

/-- Account a report, note the account on the message in progress, and tell it
    unless it was told a moment ago. -/
def recordUsage (s : Session) (delta : Usage) : Session :=
  let s := { s with usage := s.usage.merge delta }
  let s := match s.transcript.currentOf? s.generation with
    | some m =>
      { s with
        transcript := s.transcript.setCurrent { m with usage := some s.inFlightUsage } }
    | none => s
  let (due, throttle) := s.throttle.ask s.now
  let s := { s with throttle }
  if due then s.tellUsage else s

/-- The message in progress, begun if there is none yet. -/
def ensureCurrent (s : Session) : Message × Session :=
  let (m, ids, transcript) := s.transcript.ensureCurrent s.generation s.ids s.now
  (m, { s with ids, transcript })

/-- Replace the message in progress and tell it. -/
def updateCurrent (s : Session) (m : Message) : Session :=
  tellCurrent { s with transcript := s.transcript.setCurrent m }

/-- A piece of the answer came. -/
def appendText (s : Session) (text : String) : Session :=
  if text = "" then s
  else
    let (m, s) := s.ensureCurrent
    let (m, ids) := m.appendText s.ids text
    updateCurrent { s with ids } m

/-- Calls are pending. -/
def applyPending (s : Session) (us : List ToolUpdate) : Session :=
  if us.isEmpty then s
  else
    let (m, s) := s.ensureCurrent
    let (changed, m) := m.applyPending us
    if changed then s.updateCurrent m else s

/-- There is news of a call. -/
def applyTool (s : Session) (kind : ToolEvent) (u : ToolUpdate) : Session :=
  if kind.createsSegment then
    let (m, s) := s.ensureCurrent
    let (merge, m) := m.applyUpdate u true
    if merge.changed then s.updateCurrent m else s
  else
    match s.transcript.currentOf? s.generation with
    | none => s
    | some m =>
      let (merge, m) := m.applyUpdate u false
      if merge.changed then s.updateCurrent m else s

/-- The server accepted the turn. -/
def accept (s : Session) (runId : String) : Session :=
  { s with turn := s.turn.map fun turn => { turn with runId := some runId } }

/-- Whether an event of a generation still counts: its stream is the active
    one. -/
def isLive (s : Session) (generation : Nat) : Bool :=
  generation == s.generation && s.turn.isSome

/-- An event of the active turn. -/
def apply (s : Session) : TurnEvent → Session
  | .ready runId => s.accept runId
  | .token text => s.appendText text
  | .toolsPending us => s.applyPending us
  | .tool kind u => s.applyTool kind u
  | .usage report source => if source = .main then s.recordUsage report else s
  | .firstToken time => s.recordUsage (.ofFirstToken time)
  | .completed time => s.complete time
  | .error message => s.fail message

/-- An event of some stream; it is dropped unless it still counts. -/
def handle (s : Session) (e : Envelope) : Session :=
  if s.isLive e.generation then s.apply e.event else s

/-! ## Commands -/

/-- What became of submitted input. -/
inductive Submitted where
  | started
  | queued (entry : QueuedInput)
  deriving DecidableEq, Repr

/-- Submit input: it starts a turn if the session is idle with nothing queued, and
    else waits. -/
def submit (s : Session) (content : String) : Except Error Submitted × Session :=
  if Text.isBlank content then (.error .blankInput, s)
  else if !s.phase.isBusy && s.queue.isEmpty then (.ok .started, s.beginTurn content)
  else
    let entry : QueuedInput := ⟨s.ids.next, content, s.now⟩
    let s := { s with queue := s.queue.enqueue entry, ids := s.ids.advance }
    let s := s.tellQueue.drainQueue
    if s.queue.entries.any (·.id == entry.id) then (.ok (.queued entry), s)
    else (.ok .started, s)

/-- Start a turn, interrupting an active one. -/
def startTurn (s : Session) (content : String) : Except Error Unit × Session :=
  if Text.isBlank content then (.error .blankInput, s)
  else (.ok (), s.interrupt.releaseImmediate.beginTurn content)

/-- Start queued input out of order, interrupting an active turn. -/
def submitNow (s : Session) (id : String) : Except Error Unit × Session :=
  match s.queue.takeImmediate id with
  | .error e => (.error e, s)
  | .ok (entry, queue) => (.ok (), (tellQueue { s with queue }).interrupt.beginTurn entry.content)

/-- Remove queued input. -/
def removeQueued (s : Session) (id : String) : Except Error QueuedInput × Session :=
  match s.queue.remove? id with
  | none => (.error (.noSuchEntry id), s)
  | some (entry, queue) => (.ok entry, tellQueue { s with queue })

/-- Abort the active turn, then start what is queued. Says whether there was one. -/
def cancel (s : Session) : Bool × Session :=
  let s := s.releaseImmediate
  if s.turn.isNone then (false, s.abortApprovals)
  else (true, (((s.setPhase .cancelling).interrupt).setPhase .idle).drainQueue)

/-- Decide a call, interrupting an active turn. -/
def decideSingle (s : Session) (callId : String) (approve : Bool) (reason : Option String) :
    Except Error Unit × Session :=
  if Text.isBlank callId then (.error .blankInput, s)
  else (.ok (), s.interrupt.beginContinuation callId (.ofApprove approve) reason)

/-- Decide every call that can be decided, one after the other, interrupting an
    active turn. -/
def decideBulk (s : Session) (decision : Decision) : Except Error Progress × Session :=
  if s.approvals.isDraining then (.error .bulkRunning, s)
  else
    let callIds := s.approvable.map (·.callId)
    if callIds.isEmpty then (.error .nothingApprovable, s)
    else
      let s := s.interrupt
      match s.approvals.begin decision callIds with
      | (none, approvals) => (.error .nothingApprovable, { s with approvals })
      | (some (first, progress), approvals) =>
        let s := tell { s with approvals } (.approvalProgress (some progress))
        (.ok progress, s.beginContinuation first decision none)

/-- Load stored messages into a session in which nothing has happened. Says whether
    they were taken. -/
def hydrate (s : Session) (messages : List Message) : Bool × Session :=
  if s.canHydrate then
    let (taken, transcript) := s.transcript.hydrate messages
    if taken then
      (true, transcript.finalized.foldl (fun s m => s.tell (.messageFinalized m))
        { s with transcript })
    else (false, s)
  else (false, s)

/-- Abort whatever is running and go idle. -/
def shutdown (s : Session) : Session :=
  s.interrupt.setPhase .idle

/-- Let time pass. -/
def elapse (s : Session) (time : Nat) : Session :=
  { s with now := s.now + time }

/-- Collect what was done to the outside. -/
def collect (s : Session) : List Effect × Session :=
  (s.outbox, { s with outbox := [] })

end Dialogue.Session
