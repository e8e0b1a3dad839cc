import TeamChat.Channel
import TeamChat.Message
import TeamChat.Live.Update
import TeamChat.Thread

/-!
# What is on screen

The view holds the sidebar, the selected channel with its messages and threads, and the status of the live
events. Whoever follows the selection sees `watched`.

## Contents
- `View`: the state.
- `View.select`, `View.selectByName`, `View.replaceChannels`: the sidebar and the selection.
- `View.apply`, `View.acceptHistory`: what arrives from outside.
- `View.reloadAfterSend`: whether a channel has to be loaded again after something was sent to it.
-/

namespace TeamChat

open Channel (Entry)

/-- What is on screen. -/
structure View where
  channels : List Entry := []
  selected : Option String := none
  /-- The selection as it is told to others. -/
  watched : Option String := none
  messages : List Message := []
  threads : List Thread.Reference := []
  status : Option String := none
  live : Bool := false
deriving Repr

namespace View

/-- Changes the first item with a property. -/
def updateFirst {α : Type} (p : α → Bool) (f : α → α) : List α → List α
  | [] => []
  | x :: r => if p x then f x :: r else x :: updateFirst p f r

/-- Whether a channel is in the sidebar. -/
def lists (v : View) (id : String) : Bool :=
  v.channels.any fun c => c.id = id

/-- The entry of the selected channel. -/
def selectedEntry? (v : View) : Option Entry :=
  v.selected.bind fun id => v.channels.find? fun c => c.id = id

/-! ## Selection -/

/-- Makes a channel, or none, the selected one. -/
def setSelection (selected : Option String) (v : View) : View :=
  { v with selected := selected, watched := selected }

/-- Marks whether there is something new in a channel. -/
def setNotification (id : String) (notification : Bool) (v : View) : View :=
  { v with
    channels := updateFirst (fun c => c.id = id) (fun c => { c with notification := notification })
      v.channels }

/-- Selects a channel that is in the sidebar. Nothing is new in it any more, and the messages of the
channel before it go off the screen. -/
def select (id : String) (v : View) : View :=
  if v.lists id then
    let v := v.setNotification id false
    if v.selected = some id then v
    else { v with messages := [], threads := [] }.setSelection (some id)
  else v

/-- The channel of a name. -/
def channelNamed? (name : String) (v : View) : Option String :=
  (v.channels.find? fun c => c.name = name).map (·.id)

/-- Selects the first channel of a name. -/
def selectByName (name : String) (v : View) : View :=
  match v.channelNamed? name with
  | none => v
  | some id => v.select id

/-- Puts a new list into the sidebar. If the selected channel is not in it, its first channel is
selected. -/
def replaceChannels (channels : List Entry) (v : View) : View :=
  let v := { v with channels := channels }
  if v.selected.any v.lists then v
  else
    match channels with
    -- an empty list takes the selection away and leaves the messages where they are
    | [] => v.setSelection none
    | first :: _ => v.select first.id

/-! ## What arrives -/

/-- Sets the presence of the other side of direct conversations. -/
def setPresence (user : String) (presence : Channel.Presence) (v : View) : View :=
  { v with
    channels := v.channels.map fun c =>
      if c.isDirect && c.userId = user then { c with presence := presence } else c }

/-- Applies an update. -/
def apply : Live.Update → View → View
  | .reloadHistory _, v => v
  | .notify id, v => v.setNotification id true
  | .presence user presence, v => v.setPresence user presence
  | .connection live status, v => { v with live := live, status := some status }
  | .status text, v => { v with status := some text }

/-- The channel that has to be loaded again because of an update. -/
def reloadAfter? (v : View) : Live.Update → Option String
  | .reloadHistory id => if v.selected = some id then some id else none
  | _ => none

/-- Whether a history that was loaded for a channel is still wanted. -/
def awaits (v : View) (id : String) : Bool :=
  v.selected = some id

/-- Puts the history of the selected channel on the screen; that of another channel is too late. -/
def acceptHistory (id : String) (messages : List Message) (threads : List Thread.Reference)
    (v : View) : View :=
  if v.awaits id then { v with messages := messages, threads := threads } else v

/-- Whether a channel has to be loaded again after something was sent to it: unless live events will show
it. -/
def reloadAfterSend (v : View) (id : String) : Bool :=
  !v.live && v.selected = some id

end View

end TeamChat
