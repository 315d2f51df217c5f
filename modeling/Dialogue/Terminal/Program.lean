import Dialogue.Config.Load
import Dialogue.Terminal.Console
import Dialogue.Terminal.LogLevel

/-!
# The program

What the program makes of its arguments, its environment and the lines it is given,
apart from reading and writing them: `Invocation.parse?` and `configure` before the
session begins, `resumed` and `greeting` when it does, `takeLine` for each line.
-/

namespace Dialogue.Terminal

/-! ## Arguments -/

/-- The arguments of the program. -/
structure Arguments where
  /-- The path of the configuration file. -/
  config : Option String := none
  /-- The address of the server, before any other. -/
  server : Option String := none
  /-- The conversation to resume. -/
  conversation : Option String := none
  logLevel : Option String := none
  debug : Bool := false
  deriving DecidableEq, Repr

namespace Arguments

/-- Set the option with a name, which may be given once. A path is not empty. -/
def set? (a : Arguments) (name value : String) : Option Arguments :=
  if name = "--config" ∧ a.config.isNone ∧ value ≠ "" then
    some { a with config := some value }
  else if name = "--server" ∧ a.server.isNone then some { a with server := some value }
  else if name = "--conversation" ∧ a.conversation.isNone then
    some { a with conversation := some value }
  else if name = "--log-level" ∧ a.logLevel.isNone then some { a with logLevel := some value }
  else none

/-- The name and the value in a word that has both, with an equals sign between. -/
def splitAssignment? (word : String) : Option (String × String) :=
  match word.toList.dropWhile (· != '=') with
  | [] => none
  | _ :: value => some (String.ofList (word.toList.takeWhile (· != '=')), String.ofList value)

/-- Whether a word has the form of an option, so that it is no value. -/
def isOption (word : String) : Bool :=
  match word.toList with
  | '-' :: _ :: _ => true
  | _ => false

end Arguments

/-- What the program is asked to do. -/
inductive Invocation where
  /-- To hold a session. -/
  | session (a : Arguments)
  /-- To tell how it is used. -/
  | help
  /-- To tell its version. -/
  | version
  deriving DecidableEq, Repr

namespace Invocation

/-- What a word asks for that is about the program itself. -/
def aside? (word : String) : Option Invocation :=
  if word = "--help" then some .help
  else if word = "--version" then some .version
  else
    match word.toList with
    | '-' :: 'h' :: _ => some .help
    | '-' :: 'V' :: _ => some .version
    | _ => none

/-- Read further words. The word `--` ends the options, and nothing may follow. -/
def readFrom (a : Arguments) : List String → Option Invocation
  | [] => some (.session a)
  | word :: rest =>
    if word = "--" then (if rest.isEmpty then some (.session a) else none)
    else if word = "--debug" then
      (if a.debug then none else readFrom { a with debug := true } rest)
    else
      match aside? word with
      | some i => some i
      | none =>
        match Arguments.splitAssignment? word with
        | some (name, value) => (a.set? name value).bind fun a => readFrom a rest
        | none =>
          match rest with
          | [] => none
          | value :: rest =>
            if Arguments.isOption value then none
            else (a.set? word value).bind fun a => readFrom a rest

/-- What words ask for. -/
def parse? (words : List String) : Option Invocation :=
  readFrom {} words

/-- How the program is used. -/
def manual : String :=
  printedAll
    ["Terminal client for a streaming agent session", "", "Usage: turnwise [OPTIONS]", "",
      "Options:",
      "      --config <CONFIG>              Config file (defaults to the user config dir)",
      "      --server <SERVER>              Agent server base URL, overrides config and " ++
        "environment",
      "      --conversation <CONVERSATION>  Resume an existing conversation",
      "      --log-level <LOG_LEVEL>        trace, debug, info, warn, error or off",
      "      --debug",
      "  -h, --help                         Print help",
      "  -V, --version                      Print version"]

/-- The name and the version of the program. -/
def versionLine : String :=
  printed "turnwise 0.1.0"

end Invocation

/-! ## Before the session -/

/-- Why the program ends before a session begins. -/
structure Failure where
  /-- What it was about to do. -/
  doing : String
  cause : Error
  deriving DecidableEq, Repr

/-- A text with every line but the first moved in. -/
def indented (s : String) : String :=
  "\n    ".intercalate (s.splitOn "\n")

/-- What the program says of it. -/
def Failure.text (f : Failure) : String :=
  "Error: " ++ f.doing ++ "\n\nCaused by:\n    " ++ indented f.cause.message ++ "\n"

/-- The error of a result, with what was about to be done. -/
def whileDoing (doing : String) : Except Error α → Except Failure α
  | .ok a => .ok a
  | .error cause => .error ⟨doing, cause⟩

/-- The configuration from the file, the environment and the arguments. -/
def configure (detail : String) (a : Arguments) (source : Config.Source)
    (lookup : String → Option String) : Except Failure Config :=
  match whileDoing "Failed to load config" (Config.load detail source lookup) with
  | .error f => .error f
  | .ok c =>
    match a.server with
    | none => .ok c
    | some server =>
      let c := { c with serverUrl := server }
      match whileDoing "Invalid --server" c.validate with
      | .error f => .error f
      | .ok () => .ok c

/-! ## In the session -/

/-- What the program writes. -/
inductive Output where
  /-- To standard output. -/
  | out (text : String)
  /-- To standard error. -/
  | err (text : String)
  deriving DecidableEq, Repr

/-- What is written of the attempt to load the conversation, and of its messages. -/
def resumed (conversationId : String) (messages : List Message) : Except Error Bool → Output
  | .ok true => .out (historyText messages)
  | .ok false => .out (printed ("(no stored messages for " ++ conversationId ++ ")"))
  | .error e => .err (printed ("[error] failed to load conversation: " ++ e.message))

/-- What is written when lines can be given. -/
def greeting (conversationId : String) : Output :=
  .out (printed ("conversation " ++ conversationId ++ " - /help for commands"))

/-- Take a line: what is written, and the session unless it is to end. -/
def takeLine (s : Service) (line : String) : List Output × Option Service :=
  match Instruction.parse line with
  | .error e => ([.err (printed e.message)], some s)
  | .ok none => ([], some s)
  | .ok (some .quit) => ([], none)
  | .ok (some i) =>
    match execute s i with
    | (.ok text, s) => ([.out text], some s)
    | (.error e, s) => ([.err (printed ("[error] " ++ e.message))], some s)

end Dialogue.Terminal
