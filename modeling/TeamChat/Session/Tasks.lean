import TeamChat.Session.Service

/-!
# Work in the background

Work that nobody waits for reports its outcome as an event.

## Contents
- `ClientEvent`, `ClientEvent.name`: outcomes.
- `Service.loadChannelsTask`, `loadHistoryTask`, `submitTask`, `markAsReadTask`: the work.
-/

namespace TeamChat

/-- The outcome of work in the background. -/
inductive ClientEvent
  | channelsLoaded (channels : List Channel.Entry)
  | historyLoaded (channel : String) (history : History)
  /-- Something that was sent to a channel was accepted. -/
  | sent (channel : String)
  | failed (operation message : String)
deriving Repr

/-- The name of an outcome. -/
def ClientEvent.name : ClientEvent → String
  | .channelsLoaded _ => "channels-loaded"
  | .historyLoaded _ _ => "history-loaded"
  | .sent _ => "sent"
  | .failed _ _ => "failed"

namespace Service

/-- The outcome of an operation. -/
def outcome {α : Type} (operation : String) (done : α → ClientEvent) :
    Except ClientError α → ClientEvent
  | .ok x => done x
  | .error e => .failed operation e.message

/-- Loads the sidebar. -/
def loadChannelsTask (s : Service) : Session ClientEvent := do
  return outcome "load_channels" .channelsLoaded (← s.loadChannels)

/-- Loads the history of a channel. -/
def loadHistoryTask (s : Service) (channel : String) : Session ClientEvent := do
  return outcome "load_history" (.historyLoaded channel) (← s.loadHistory channel)

/-- Sends a line to a channel. -/
def submitTask (s : Service) (channel line : String) : Session ClientEvent := do
  return outcome "send" (fun _ => .sent channel) (← s.submit channel line)

/-- Marks a channel as read. Nobody is told whether it worked. -/
def markAsReadTask (s : Service) (channel : String) : Session Unit := do
  let _ ← s.markAsRead channel

end Service

end TeamChat
