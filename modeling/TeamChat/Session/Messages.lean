import TeamChat.ClientError
import TeamChat.Message
import TeamChat.Session.Bodies
import TeamChat.Wire.Event

/-!
# Messages from posts

A post becomes a message with its author, its body, its attachments and its files; a post from which a
thread hangs also gets the replies. Names and replies that cannot be had leave the message as it is.

## Contents
- `Session.leaf`: a message without replies.
- `Session.buildMessage`: a message with its replies.
- `Session.history`: the history of a channel, oldest first.
- `Session.messageById`, `Session.ofEvent`: single messages.
-/

namespace TeamChat

open Remote (ApiError)

/-- The history of a channel, with the threads that hang from its messages. -/
structure History where
  messages : List Message
  threads : List Thread.Reference
deriving Repr

namespace Session

/-! ## Messages without replies -/

/-- A message that is carried for its text alone. -/
def contentOnly (id : String) (time : Calendar.Instant) (content : String) : Message :=
  ⟨id, time, "", content, "", []⟩

/-- The lines of the attachments, each under its number. -/
def attachmentParts (time : Calendar.Instant) (attachments : List Wire.Attachment) :
    List (SubMessage Message) :=
  (Wire.attachmentLines attachments).mapIdx fun i line =>
    ⟨.attachment i, contentOnly (String.ofList (Numeral.decimal i)) time line⟩

/-- The files, each under its id. -/
def fileParts (time : Calendar.Instant) (files : List Wire.File) : List (SubMessage Message) :=
  files.map fun f => ⟨.file f.id, contentOnly f.id time f.line⟩

/-- Who wrote a post: a user, a bot that may have a name, or nobody that is known. -/
def author (p : Wire.Post) : Session String :=
  if !p.user.isEmpty then nameOf p.user
  else if p.botId.isEmpty then return "unknown"
  else if p.username.isEmpty then return "unknown bot"
  else return p.username

/-- The message of a post without the replies to it. -/
def leaf (emoji : Bool) (p : Wire.Post) : Session Message := do
  let name ← author p
  let content ← format emoji p.text
  let time := Stamp.instant p.stamp
  return ⟨p.stamp, time, name, content, "", attachmentParts time p.attachments ++ fileParts time p.files⟩

/-! ## Threads -/

/-- The alias of a thread, which is remembered. -/
def registerThread (stamp : String) : Session Thread.Reference := do
  let w ← get
  let (reference, threads) := Thread.Table.register w.threads stamp
  set { w with threads := threads }
  return reference

/-- The thread of an alias. -/
def lookupThread (word : String) : Session (Option String) := do
  return Thread.Table.lookup (← get).threads word

/-- The posts in a thread. -/
def fetchReplies (channel stamp : String) : Session (Except ApiError (List Wire.Post)) :=
  collect fun cursor => call (.replies { channel := channel, stamp := stamp, cursor := cursor })

/-- Whether a post in a thread is shown below its first post. -/
def isReplyTo (stamp : String) (p : Wire.Post) : Bool :=
  p.stamp ≠ stamp && !p.startsThread

/-- The messages of replies, one after the other. -/
def replyParts (emoji : Bool) : List Wire.Post → Session (List (SubMessage Message))
  | [] => return []
  | p :: r => do
    let message ← leaf emoji p
    return ⟨.reply p.stamp, message⟩ :: (← replyParts emoji r)

/-- The replies in the thread that hangs from a post. If they cannot be had there are none. -/
def threadParts (emoji : Bool) (channel stamp : String) : Session (List (SubMessage Message)) := do
  match ← fetchReplies channel stamp with
  | .error _ => return []
  | .ok posts => replyParts emoji (posts.filter (isReplyTo stamp))

/-- The message of a post. -/
def buildMessage (emoji : Bool) (channel : String) (p : Wire.Post) : Session Message := do
  let m ← leaf emoji p
  if p.startsThread then
    let reference ← registerThread p.stamp
    let replies ← threadParts emoji channel p.stamp
    return { m with thread := reference.word, messages := m.messages ++ replies }
  else return m

/-! ## Histories -/

/-- The messages of posts, one after the other. -/
def buildMessages (emoji : Bool) (channel : String) : List Wire.Post → Session (List Message)
  | [] => return []
  | p :: r => do
    let m ← buildMessage emoji channel p
    return m :: (← buildMessages emoji channel r)

/-- The thread that hangs from a message. -/
def referenceOf? (m : Message) : Option Thread.Reference :=
  if m.startsThread then some ⟨m.thread, m.id⟩ else none

/-- The first second of the last days of a calendar that begins in 1970. -/
def oldest (now : Int) (days : Nat) : Nat :=
  (now - 86400 * days).toNat

/-- The last messages of a channel, at most `count` and from the last `days` days. The service answers
newest first, and messages are shown oldest first. -/
def history (emoji : Bool) (channel : String) (count days : Nat) :
    Session (Except ApiError History) := do
  let bound := String.ofList (Numeral.decimal (oldest (← get).now days))
  match ← call (.history { channel := channel, limit := count, oldest := bound }) with
  | .error e => return .error e
  | .ok page =>
    let messages ← buildMessages emoji channel page.items
    return .ok ⟨messages.reverse, messages.filterMap referenceOf?⟩

/-! ## Single messages -/

/-- The newest message of a channel that is not newer than a timestamp. -/
def messageById (emoji : Bool) (channel stamp : String) :
    Session (Except ApiError (Option Message)) := do
  let query : Remote.HistoryQuery :=
    { channel := channel, limit := 1, latest := stamp, inclusive := true }
  match ← call (.history query) with
  | .error e => return .error e
  | .ok page =>
    match page.items with
    | [] => return .ok none
    | p :: _ => return .ok (some (← buildMessage emoji channel p))

/-- What is put behind the text of an edited post. -/
def editedSuffix : String := " (edited)"

/-- The message that a live event is about. -/
def ofEvent (emoji : Bool) (channel : String) (e : Wire.MessageEvent) :
    Session (Except ClientError Message) := do
  let subtype := e.post.subtype
  if subtype = "message_changed" then
    match e.replacement with
    | none => return .error (.ignoredEvent subtype)
    | some p => return .ok (← buildMessage emoji channel { p with text := p.text ++ editedSuffix })
  else if subtype = "message_replied" || subtype = "message_deleted" then
    return .error (.ignoredEvent subtype)
  else return .ok (← buildMessage emoji channel e.post)

end Session

end TeamChat
