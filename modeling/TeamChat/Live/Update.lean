import TeamChat.Channel
import TeamChat.Wire.Event

/-!
# Updates of the view by live events

An event leads to at most one update, which depends on the channel that is selected when the event is
looked at.

## Contents
- `Live.Update`: what the view is told.
- `Live.isNewMessage`: the posts that are something new.
- `Live.Update.ofEvent?`: the update of an event.
-/

namespace TeamChat.Live

open Wire (Event)

/-- What the view is told. -/
inductive Update
  /-- Something happened in the selected channel. -/
  | reloadHistory (channel : String)
  /-- Something new arrived in another channel. -/
  | notify (channel : String)
  | presence (user : String) (presence : Channel.Presence)
  /-- Live events came up or went away. -/
  | connection (live : Bool) (status : String)
  | status (text : String)
deriving DecidableEq, Repr

/-- Edits, removals and the bookkeeping of threads are nothing new. -/
def isNewMessage (subtype : String) : Bool :=
  !(subtype = "message_changed" || subtype = "message_deleted" || subtype = "message_replied")

/-- An error notice in words. -/
def errorText (n : Wire.ErrorNotice) : String :=
  "Event stream error " ++ String.ofList (Numeral.signed n.code) ++ ": " ++ n.text

/-- The update of an event, given the selected channel. -/
def Update.ofEvent? (selected : Option String) : Event → Option Update
  | .message body =>
    if body.channel.isEmpty then none
    else if selected = some body.channel then some (.reloadHistory body.channel)
    else if isNewMessage body.post.subtype then some (.notify body.channel)
    else none
  | .presence user value => some (.presence user (.ofRemote value))
  | .connected => some (.connection true "Connected")
  | .hello => some (.status "Receiving live events")
  | .goodbye => some (.status "Server is closing the event stream")
  | .error notice => some (.status (errorText notice))
  | .disconnected reason => some (.connection false ("Disconnected: " ++ reason))
  | .other _ => none

end TeamChat.Live
