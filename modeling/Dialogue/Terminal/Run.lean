import Dialogue.Http.Client
import Dialogue.Terminal.Program
import Dialogue.Terminal.Renderer

/-!
# A whole run

A run of the program from its first argument to its last line, against a server
that answers by a rule. What the session tells is written after each line.
-/

namespace Dialogue.Terminal

/-- What a run is given. -/
structure Surroundings where
  /-- The arguments. -/
  words : List String
  /-- The environment. -/
  lookup : String → Option String
  /-- What is found at a path, or at the usual place of the configuration. -/
  source : Option String → Config.Source
  /-- Standard input. -/
  input : String
  /-- Milliseconds since the epoch. -/
  now : Nat
  ids : Ids

/-- What a run comes to. -/
structure Run (σ : Type) where
  /-- The exit code. -/
  code : Nat
  outputs : List Output
  server : σ

/-- A line without a carriage return at its end. -/
def withoutReturn (line : String) : String :=
  match line.toList.reverse with
  | '\r' :: rest => String.ofList rest.reverse
  | _ => line

/-- The lines of a text without their ends; what follows the last end is a line unless
    it is empty. -/
def linesOf (text : String) : List String :=
  let parts := text.splitOn "\n"
  parts.dropLast.map withoutReturn ++ (parts.getLast?.filter (!·.isEmpty)).toList

/-- Take lines until the input or the session ends. -/
def takeLines {σ : Type} (server : Http.Server σ) :
    List String → Http.Client σ → Renderer → List Output × Http.Client σ
  | [], c, _ => ([], c)
  | line :: rest, c, r =>
    match takeLine c.service line with
    | (outputs, none) => (outputs, c)
    | (outputs, some service) =>
      let (effects, c) := Http.Client.settle server { c with service }
      let (shown, r) := r.renderAll (Effect.updates effects)
      let (more, c) := takeLines server rest c r
      (outputs ++ .out shown :: more, c)

/-- The session of a run from its beginning. -/
def converse {σ : Type} (server : Http.Server σ) (a : Arguments) (conversationId input : String)
    (c : Http.Client σ) : List Output × Http.Client σ :=
  let (history, c) :=
    if a.conversation.isSome then
      let (taken, c) := Http.Client.hydrate server c
      let (_, c) := Http.Client.settle server c
      ([resumed conversationId c.service.session.snapshot.messages taken], c)
    else ([], c)
  let (outputs, c) := takeLines server (linesOf input) c {}
  (history ++ greeting conversationId :: outputs, c)

/-- A session that is about to begin. -/
structure Opening (σ : Type) where
  conversationId : String
  /-- What is written first. -/
  warnings : List Output
  /-- The session, or why there is none. -/
  client : Except Failure (Http.Client σ)

/-- Make everything ready for a session. A conversation that is not named gets the
    first identifier of the supply. `detail` words what is wrong with a file. -/
def prepare {σ : Type} (detail : String) (a : Arguments) (source : Config.Source)
    (lookup : String → Option String) (now : Nat) (ids : Ids) (state : σ) : Opening σ :=
  let (warnings, _) := LogLevel.resolve a.logLevel (lookup LogLevel.environmentName) a.debug
  let (conversationId, ids) := match a.conversation with
    | some id => (id, ids)
    | none => (ids.next, ids.advance)
  { conversationId
    warnings := warnings.map fun w => .err (printed w)
    client := (configure detail a source lookup).bind fun c =>
      whileDoing "Failed to start session" (Http.Client.start c conversationId now ids state) }

/-- The exit code when the arguments cannot be read. -/
def usageCode : Nat := 2

/-- The exit code when the session cannot begin. -/
def failureCode : Nat := 1

/-- A run against a server in a state. `detail` words what is wrong with a file. -/
def run {σ : Type} (server : Http.Server σ) (detail : String) (s : Surroundings) (state : σ) :
    Run σ :=
  match Invocation.parse? s.words with
  | none => ⟨usageCode, [], state⟩
  | some .help => ⟨0, [.out Invocation.manual], state⟩
  | some .version => ⟨0, [.out Invocation.versionLine], state⟩
  | some (.session a) =>
    let opening := prepare detail a (s.source a.config) s.lookup s.now s.ids state
    match opening.client with
    | .error f => ⟨failureCode, opening.warnings ++ [.err f.text], state⟩
    | .ok c =>
      let (outputs, c) := converse server a opening.conversationId s.input c
      ⟨0, opening.warnings ++ outputs, c.server⟩

end Dialogue.Terminal
