import TeamChat.Session.Tasks
import TeamChat.Text.Blank
import TeamChat.View

/-!
# The terminal

The terminal shows lines and reads lines. A line is a command to the terminal itself, or goes to the
selected channel. Whatever happens, the terminal changes the view, shows some lines, and may ask for work
in the background.

## Contents
- `Terminal.Job`, `Terminal.Reaction`: what the terminal asks for, and what it does.
- `Terminal.channelLine`, `Terminal.messageLines`: channels and messages as lines.
- `Terminal.onLine`, `onOutcome`, `onUpdate`: how it reacts.
-/

namespace TeamChat.Terminal

/-! ## Reactions -/

/-- Work in the background. -/
inductive Job
  | loadChannels
  | loadHistory (channel : String)
  | submit (channel line : String)
  | markAsRead (channel : String)
deriving DecidableEq, Repr

/-- What the terminal does. -/
structure Reaction where
  view : View
  lines : List String := []
  jobs : List Job := []
deriving Repr

/-! ## Lines -/

/-- Whether the other side of a direct conversation is there, as far as that is known. -/
def presenceMark (e : Channel.Entry) : String :=
  if e.isDirect then
    match e.presence with
    | .active => " (active)"
    | .away => " (away)"
    | .unknown => ""
  else ""

/-- A channel as a line. -/
def channelLine (selected : Option String) (e : Channel.Entry) : String :=
  (if selected = some e.id then ">" else " ") ++ (if e.notification then "*" else " ")
    ++ " [" ++ e.kind.text ++ "] " ++ e.name ++ presenceMark e

/-- The heading above the messages of a channel. -/
def heading (name : String) : String :=
  "== " ++ name ++ " =="

/-- A message that another one carries, as a line. -/
def subMessageLine (m : Message) : String :=
  "      " ++ (if m.name.isEmpty then "" else "<" ++ m.name ++ "> ") ++ m.content

/-- A message with what it carries, as lines. -/
def messageLines (m : Message) : List String :=
  (m.time.clock ++ " " ++ (if m.thread.isEmpty then "" else m.thread ++ " ")
      ++ "<" ++ m.name ++ "> " ++ m.content)
    :: m.messages.map fun s => subMessageLine s.message

/-- The threads of a history, as lines. -/
def threadLines (threads : List Thread.Reference) : List String :=
  if threads.isEmpty then ["No threads in this conversation"]
  else threads.map fun r => r.word ++ "  " ++ r.stamp

/-! ## What is typed -/

/-- A line without blanks around it. -/
def trimmed (line : String) : String :=
  String.ofList (Text.trim line.toList)

/-- The name that a line asks to switch to. -/
def switchTarget? (line : String) : Option String :=
  let command := "/switch ".toList
  if command.isPrefixOf line.toList then
    some (trimmed (String.ofList (line.toList.drop command.length)))
  else none

/-- Switches to the channel of a name. -/
def switch (v : View) (name : String) : Reaction :=
  match v.channelNamed? name with
  | none => { view := v, lines := ["No conversation named " ++ name] }
  | some id =>
    { view := v.selectByName name
      lines := [heading name]
      jobs := [.loadHistory id, .markAsRead id] }

/-- Whether a line ends the session. -/
def isQuit (line : String) : Bool :=
  trimmed line = "/quit"

/-- The reaction to a line that is typed. -/
def onLine (v : View) (line : String) : Reaction :=
  let line := trimmed line
  if line.isEmpty then { view := v }
  else
    match switchTarget? line with
    | some name => switch v name
    | none =>
      if line = "/channels" then { view := v, lines := v.channels.map (channelLine v.selected) }
      else if line = "/threads" then { view := v, lines := threadLines v.threads }
      else if line = "/refresh" then { view := v, jobs := [.loadChannels] }
      else
        match v.selected with
        | some id => { view := v, jobs := [.submit id line] }
        | none => { view := v, lines := ["No conversation selected"] }

/-! ## What arrives -/

/-- The reaction to the outcome of work in the background. -/
def onOutcome (v : View) : ClientEvent → Reaction
  | .channelsLoaded channels =>
    let v := v.replaceChannels channels
    { view := v
      lines := [String.ofList (Numeral.decimal v.channels.length) ++ " conversations"] }
  | .historyLoaded id history =>
    let shown := if v.awaits id then history.messages.flatMap messageLines else []
    { view := v.acceptHistory id history.messages history.threads, lines := shown }
  | .sent id => { view := v, jobs := if v.reloadAfterSend id then [.loadHistory id] else [] }
  | .failed operation message =>
    { view := v, lines := ["! " ++ operation ++ " failed: " ++ message] }

/-- The line about something new in a channel that is in the sidebar. -/
def activityLines (v : View) : Live.Update → List String
  | .notify id =>
    match v.channels.find? fun c => c.id = id with
    | some e => ["* new activity in " ++ e.name]
    | none => []
  | _ => []

/-- The reaction to an update. -/
def onUpdate (v : View) (u : Live.Update) : Reaction :=
  let w := v.apply u
  { view := w
    lines := activityLines w u
    jobs := (w.reloadAfter? u).toList.map .loadHistory }

/-- The reaction to the first list of channels. -/
def onStart (channels : List Channel.Entry) : Reaction :=
  let v := View.replaceChannels channels {}
  match v.selectedEntry? with
  | some e => { view := v, lines := [heading e.name], jobs := [.loadHistory e.id] }
  | none => { view := v }

end TeamChat.Terminal
