import Dialogue.Usage

/-!
# Usage on the terminal

The account of the last turn and that of the conversation, one line each.
-/

namespace Dialogue.Terminal

/-- A time, or a dash if it is not known. -/
def timeText : Option Count → String
  | some time => toString time.val ++ "ms"
  | none => "-"

/-- A figure with its name. -/
def figure (name text : String) : String :=
  name ++ "=" ++ text

/-- A counter with its name. -/
def counterText (name : String) (count : Count) : String :=
  figure name (toString count.val)

/-- The account of a turn. -/
def turnText (turn : Usage) : String :=
  "turn: " ++ " ".intercalate
    [counterText "prompt" turn.prompt, counterText "completion" turn.completion,
      counterText "total" turn.total, counterText "cached" turn.cached,
      figure "ttft" (timeText turn.firstToken), figure "ttr" (timeText turn.response)]

/-- The account of a conversation. -/
def conversationText (session : Usage) : String :=
  "session: " ++ " ".intercalate
    [counterText "prompt" session.prompt, counterText "completion" session.completion,
      counterText "total" session.total, counterText "generation_ms" session.generation]

/-- Both accounts. -/
def usageText (turn session : Usage) : String :=
  turnText turn ++ "\n" ++ conversationText session

end Dialogue.Terminal
