import Dialogue.Config
import Dialogue.Usage.Json

/-!
# Configurations in JSON

How a configuration is written, token and all. To show one, see `Config.describe`.
-/

namespace Dialogue.Config

open Json

/-- A configuration as a record. -/
def toJson (c : Config) : Value :=
  .ofMembers
    [("server_url", .string c.serverUrl), ("chat_path", .string c.chatPath),
      ("approval_path", .string c.approvalPath), ("stop_path", .string c.stopPath),
      ("conversation_path", .string c.conversationPath),
      ("idle_timeout_secs", c.idleTimeout.toJson),
      ("connect_timeout_secs", c.connectTimeout.toJson),
      ("usage_throttle_ms", c.usageThrottle.toJson),
      ("bearer_token", .ofOption .string c.bearerToken)]

end Dialogue.Config
