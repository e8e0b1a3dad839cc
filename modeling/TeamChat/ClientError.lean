import TeamChat.Remote.Error
import TeamChat.Settings
import TeamChat.Slash

/-!
# Failures of a session

## Contents
- `ClientError`, `ClientError.message`: why an operation failed.
- `ClientError.isAuth`: the failures that end a session.
-/

namespace TeamChat

/-- Why an operation failed. -/
inductive ClientError
  | api (e : Remote.ApiError)
  | settings (f : Settings.Fault)
  /-- A live event that shows no message, with its subtype. -/
  | ignoredEvent (subtype : String)
  | noChannels
  /-- An alias that no thread was shown under. -/
  | unknownThread (word : String)
  | slash (r : Slash.Refusal)
deriving DecidableEq, Repr

namespace ClientError

/-- A failure in words, followed by its causes. -/
def chain : ClientError → List String
  | .api e => e.chain
  | .settings f => ["Configuration error: " ++ f.message]
  | .ignoredEvent subtype => ["Ignored event subtype: " ++ subtype]
  | .noChannels => ["No channels available"]
  | .unknownThread word => ["Unknown thread alias: " ++ word]
  | .slash (.notACommand line) => ["Not a slash command: " ++ line]
  | .slash .badThread => ["Invalid command: usage: /thread <alias> <message>"]

/-- A failure in words. -/
def message (e : ClientError) : String :=
  e.chain.headD ""

/-- Whether the failure is one of authorization. -/
def isAuth : ClientError → Bool
  | .api e => e.isAuth
  | _ => false

end ClientError

end TeamChat
