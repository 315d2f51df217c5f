import Dialogue.Text.Blank

/-!
# Log levels

How much of the log is kept. The level is the one given as an argument, else
the one of the environment, else a default; one that cannot be read is passed
over with a warning.
-/

namespace Dialogue.Terminal

/-- How much of the log is kept. -/
inductive LogLevel where
  | trace
  | debug
  | info
  | warn
  | error
  | off
  deriving DecidableEq, Repr

namespace LogLevel

/-- The name of a level. -/
def name : LogLevel → String
  | .trace => "trace"
  | .debug => "debug"
  | .info => "info"
  | .warn => "warn"
  | .error => "error"
  | .off => "off"

/-- Every level. -/
def all : List LogLevel :=
  [.trace, .debug, .info, .warn, .error, .off]

/-- The level with a name, in any case and with blanks around it. Of the
    characters beyond ASCII only the Kelvin sign has a lower case in ASCII, and no
    name has a `k`. -/
def parse? (text : String) : Option LogLevel :=
  let word := (Text.trim text).map Char.toLower
  all.find? fun level => level.name == word

/-- The level if nobody names one. -/
def default (debug : Bool) : LogLevel :=
  if debug then .debug else .info

/-- What is said of a text that is no level. -/
def warning (source text : String) : String :=
  "Warning: Invalid " ++ source ++ " '" ++ text ++ "', falling back to default"

/-- The level of the first source that names one, and the warnings on the sources
    before it. -/
def fromSources (fallback : LogLevel) : List (String × Option String) → List String × LogLevel
  | [] => ([], fallback)
  | (_, none) :: rest => fromSources fallback rest
  | (source, some text) :: rest =>
    match parse? text with
    | some level => ([], level)
    | none =>
      let (warnings, level) := fromSources fallback rest
      (warning source text :: warnings, level)

/-- The name of the variable that gives a level. -/
def environmentName : String := "TURNWISE_LOG_LEVEL"

/-- The level that an argument and the environment come to, and the warnings. -/
def resolve (argument environment : Option String) (debug : Bool) : List String × LogLevel :=
  fromSources (default debug) [("--log-level", argument), (environmentName, environment)]

end LogLevel

end Dialogue.Terminal
