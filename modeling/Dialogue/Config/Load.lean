import Dialogue.Config
import Dialogue.Text.Quoted
import Dialogue.Text.Utf8
import Dialogue.Toml.Document

/-!
# Configuration files

A configuration is read from a file in TOML, in which every setting may be missing
and others are passed over. `Config.load` puts the file, the environment and the
check together; `Config.describe` shows a configuration without giving away its
token.
-/

namespace Dialogue.Config

/-! ## Settings in a document -/

/-- A setting that is a text, with its default. -/
def text? (key default : String) (t : Toml.Table) : Option String :=
  match t.lookup key with
  | none => some default
  | some (.string s) => some s
  | some _ => none

/-- A setting that is a count, with its default. -/
def count? (key : String) (default : Count) (t : Toml.Table) : Option Count :=
  match t.lookup key with
  | none => some default
  | some (.integer i) => if 0 ≤ i then some (Count.ofNat i.toNat) else none
  | some _ => none

/-- A setting that is a text or missing. -/
def maybeText? (key : String) (t : Toml.Table) : Option (Option String) :=
  match t.lookup key with
  | none => some none
  | some (.string s) => some (some s)
  | some _ => none

/-- The configuration that a document gives. -/
def ofTable? (t : Toml.Table) : Option Config := do
  let default : Config := {}
  let serverUrl ← text? "server_url" default.serverUrl t
  let chatPath ← text? "chat_path" default.chatPath t
  let approvalPath ← text? "approval_path" default.approvalPath t
  let stopPath ← text? "stop_path" default.stopPath t
  let conversationPath ← text? "conversation_path" default.conversationPath t
  let idleTimeout ← count? "idle_timeout_secs" default.idleTimeout t
  let connectTimeout ← count? "connect_timeout_secs" default.connectTimeout t
  let usageThrottle ← count? "usage_throttle_ms" default.usageThrottle t
  let bearerToken ← maybeText? "bearer_token" t
  some {
    serverUrl := serverUrl
    chatPath, approvalPath, stopPath, conversationPath, idleTimeout, connectTimeout,
    usageThrottle, bearerToken }

/-- The configuration that a text gives. -/
def parse? (text : String) : Option Config :=
  (Toml.parse? text).bind ofTable?

/-! ## Loading -/

/-- What was found in place of a file. -/
inductive Source where
  /-- No file was named, and there is none at the usual place. -/
  | absent
  /-- The file cannot be read, for a reason. -/
  | unreadable (path reason : String)
  /-- The file's octets. -/
  | file (path : String) (octets : List UInt8)
  deriving DecidableEq, Repr

/-- The reason why octets that are no text cannot be read. -/
def notText : String := "stream did not contain valid UTF-8"

/-- A file could not be read. -/
def unreadable (path reason : String) : Error :=
  .config ("Failed to read " ++ path ++ ": " ++ reason)

/-- The configuration of a source; without a file the default. `detail` words what
    is wrong with a file's text. -/
def ofSource (detail : String) : Source → Except Error Config
  | .absent => .ok {}
  | .unreadable path reason => .error (unreadable path reason)
  | .file path octets =>
    match Text.Utf8.decode? octets with
    | none => .error (unreadable path notText)
    | some text =>
      match parse? text with
      | some c => .ok c
      | none => .error (.config detail)

/-- The configuration of a source and the environment, if it can be used. -/
def load (detail : String) (source : Source) (lookup : String → Option String) :
    Except Error Config :=
  match ofSource detail source with
  | .error e => .error e
  | .ok c =>
    let c := c.override lookup
    match c.validate with
    | .error e => .error e
    | .ok () => .ok c

/-! ## Showing -/

/-- The settings with their values, the token's own text left out. -/
def settings (c : Config) : List (String × String) :=
  [("server_url", Text.Quoted.encode c.serverUrl),
    ("chat_path", Text.Quoted.encode c.chatPath),
    ("approval_path", Text.Quoted.encode c.approvalPath),
    ("stop_path", Text.Quoted.encode c.stopPath),
    ("conversation_path", Text.Quoted.encode c.conversationPath),
    ("idle_timeout_secs", toString c.idleTimeout.val),
    ("connect_timeout_secs", toString c.connectTimeout.val),
    ("usage_throttle_ms", toString c.usageThrottle.val),
    ("bearer_token", if c.bearerToken.isSome then "Some(\"<redacted>\")" else "None")]

/-- A configuration shown on one line. -/
def describe (c : Config) : String :=
  "ClientConfig \x7b " ++
    ", ".intercalate (c.settings.map fun (name, value) => name ++ ": " ++ value) ++ " \x7d"

end Dialogue.Config
