import TeamChat.Session.Channels
import TeamChat.Session.Messages

/-!
# The service that is signed in to

Signing in checks the token, finds out what its owner is called, and tells the service that the owner is
there. After that channels, messages and commands are a call or more away.

## Contents
- `Service`, `Session.connect`: whom a session belongs to.
- `Service.loadChannels`, `Service.loadHistory`: what is shown.
- `Service.post`, `Service.sendCommand`, `Service.submit`: what is sent.
- `Service.openEvents`: live events.
-/

namespace TeamChat

open Remote (ApiError)

/-- A session that is signed in. -/
structure Service where
  settings : Settings
  userId : String
  username : String
deriving DecidableEq, Repr

namespace Session

/-- The name of the application. -/
def applicationName : String := "slack-term"

/-- Makes a call and reports its failure as one of the session. -/
def request (c : Remote.Call) : Session (Except ClientError c.Reply) := do
  return (← call c).mapError .api

/-- What the owner of a token is called: as the service says, or as the directory does. -/
def ownName (me : Remote.Identity) : Session String := do
  if !me.user.isEmpty then
    prime me.userId me.user
    return me.user
  else
    match ← resolve me.userId with
    | .ok name => return name
    | .error _ => return applicationName

/-- Tells the service that the user is there. -/
def setActive : Session (Except ClientError Unit) :=
  request (.setPresence "auto")

/-- Forgets all threads. -/
def clearThreads : Session Unit :=
  modify fun w => { w with threads := .empty }

/-- Signs in. -/
def connect (settings : Settings) : Session (Except ClientError Service) := do
  match ← request .authTest with
  | .error e => return .error e
  | .ok me =>
    let username ← ownName me
    clearThreads
    let _ ← setActive
    return .ok ⟨settings, me.userId, username⟩

end Session

namespace Service

open Session

/-! ## Channels and messages -/

/-- The sidebar, which is never empty. -/
def loadChannels (s : Service) : Session (Except ClientError (List Channel.Entry)) := do
  match ← (if s.settings.enterprise then fetchForUser else fetchAll true) with
  | .error e => return .error (.api e)
  | .ok entries => return if entries.isEmpty then .error .noChannels else .ok entries

/-- The history of a channel. -/
def buildHistory (s : Service) (channel : String) (count days : Nat) :
    Session (Except ClientError History) := do
  return (← history s.settings.emoji channel count days).mapError .api

/-- The history of a channel, as far as the settings say. -/
def loadHistory (s : Service) (channel : String) : Session (Except ClientError History) :=
  s.buildHistory channel s.settings.historyCount s.settings.historyDays

/-- The newest message of a channel that is not newer than a timestamp. -/
def messageById (s : Service) (channel stamp : String) :
    Session (Except ClientError (Option Message)) := do
  return (← Session.messageById s.settings.emoji channel stamp).mapError .api

/-- The message that a live event is about. -/
def ofEvent (s : Service) (channel : String) (e : Wire.MessageEvent) :
    Session (Except ClientError Message) :=
  Session.ofEvent s.settings.emoji channel e

/-! ## Sending -/

/-- Posts a message, in a thread if one is named. -/
def post (s : Service) (channel text threadStamp : String) : Session (Except ClientError Unit) :=
  request (.postMessage ⟨channel, text, threadStamp, s.username⟩)

/-- Posts a message. -/
def sendMessage (s : Service) (channel text : String) : Session (Except ClientError Unit) :=
  s.post channel text ""

/-- Posts a reply. -/
def sendReply (s : Service) (channel threadStamp text : String) :
    Session (Except ClientError Unit) :=
  s.post channel text threadStamp

/-- Carries a command out. A reply goes to the thread of its alias, everything else to the service. -/
def run (s : Service) (channel : String) : Slash.Command → Session (Except ClientError Unit)
  | .thread word text => do
    match ← lookupThread word with
    | none => return .error (.unknownThread word)
    | some stamp => s.sendReply channel stamp text
  | .remote name text => request (.sendCommand channel name text)

/-- Carries out the command of a line. -/
def sendCommand (s : Service) (channel line : String) : Session (Except ClientError Unit) := do
  match Slash.parse line with
  | .error r => return .error (.slash r)
  | .ok c => s.run channel c

/-- Sends a line: a command is carried out, anything else is posted. -/
def submit (s : Service) (channel line : String) : Session (Except ClientError Unit) :=
  if Slash.isCommand line then s.sendCommand channel line else s.sendMessage channel line

/-- The timestamp of a second. -/
def wholeStamp (seconds : Int) : String :=
  String.ofList (Numeral.signed seconds) ++ ".000000"

/-- Marks a channel as read up to now. -/
def markAsRead (_s : Service) (channel : String) : Session (Except ClientError Unit) := do
  request (.markRead channel (wholeStamp (← get).now))

/-! ## Live events -/

/-- Opens the live events. -/
def openEvents (_s : Service) : Session (Except ClientError Unit) := do
  match ← request .connectEvents with
  | .error e => return .error e
  | .ok url => return ((← read).openStream url).mapError .api

end Service

end TeamChat
