import TeamChat.Remote.Error
import TeamChat.Wire.Conversation
import TeamChat.Wire.Post
import TeamChat.Wire.User

/-!
# Calls to the service

Every call that is made to the service, with its arguments, and the type of its answer.

## Contents
- `Remote.Page`: a part of a listing.
- `Remote.Listing`, `HistoryQuery`, `RepliesQuery`, `Posting`: arguments.
- `Remote.Call`, `Remote.Call.Reply`: calls and their answers.
- `Remote.Step`, `Remote`: what a session does to the outside, and the service as it is seen from inside.
-/

namespace TeamChat

namespace Remote

/-! ## Arguments and answers -/

/-- A part of a listing, and the cursor of the next part, which is empty behind the last one. -/
structure Page (α : Type) where
  items : List α := []
  next : String := ""
deriving DecidableEq, Repr, Inhabited

/-- Whether no part follows. -/
def Page.isLast {α : Type} (p : Page α) : Bool :=
  p.next.isEmpty

/-- The types of conversation that can be listed. -/
inductive ListingType
  | publicChannel
  | privateChannel
  | direct
  | multiParty
deriving DecidableEq, Repr

/-- The name of a type. -/
def ListingType.text : ListingType → String
  | .publicChannel => "public_channel"
  | .privateChannel => "private_channel"
  | .direct => "im"
  | .multiParty => "mpim"

/-- Which conversations are listed, and from where on. -/
structure Listing where
  types : List ListingType
  excludeArchived : Bool := true
  limit : Nat := 1000
  cursor : String := ""
deriving DecidableEq, Repr

/-- The types of a listing, with commas between them. -/
def Listing.typesText (q : Listing) : String :=
  ",".intercalate (q.types.map ListingType.text)

/-- Which part of a history is asked for. Bounds are timestamps, empty for none. -/
structure HistoryQuery where
  channel : String
  limit : Nat
  oldest : String := ""
  latest : String := ""
  inclusive : Bool := false
  cursor : String := ""
deriving DecidableEq, Repr

/-- Which replies are asked for. -/
structure RepliesQuery where
  channel : String
  stamp : String
  limit : Nat := 200
  cursor : String := ""
deriving DecidableEq, Repr

/-- A message to post, in a thread if one is named. -/
structure Posting where
  channel : String
  text : String
  threadStamp : String := ""
  username : String := ""
deriving DecidableEq, Repr

/-- Whom a token belongs to. -/
structure Identity where
  userId : String := ""
  user : String := ""
  team : String := ""
deriving DecidableEq, Repr

/-! ## Calls -/

/-- A call with its arguments. -/
inductive Call
  | authTest
  | listConversations (q : Listing)
  | userConversations (q : Listing)
  | history (q : HistoryQuery)
  | replies (q : RepliesQuery)
  | userInfo (user : String)
  | userPresence (user : String)
  | setPresence (presence : String)
  | postMessage (p : Posting)
  | sendCommand (channel command text : String)
  | markRead (channel stamp : String)
  | connectEvents
deriving DecidableEq, Repr

namespace Call

/-- The answer to a call. -/
@[reducible] def Reply : Call → Type
  | .authTest => Identity
  | .listConversations _ => Page Wire.Conversation
  | .userConversations _ => Page Wire.Conversation
  | .history _ => Page Wire.Post
  | .replies _ => Page Wire.Post
  | .userInfo _ => Wire.User
  | .userPresence _ => String
  | .setPresence _ => Unit
  | .postMessage _ => Unit
  | .sendCommand _ _ _ => Unit
  | .markRead _ _ => Unit
  | .connectEvents => String

/-- The name by which the service knows a call. -/
def method : Call → String
  | .authTest => "auth.test"
  | .listConversations _ => "conversations.list"
  | .userConversations _ => "users.conversations"
  | .history _ => "conversations.history"
  | .replies _ => "conversations.replies"
  | .userInfo _ => "users.info"
  | .userPresence _ => "users.getPresence"
  | .setPresence _ => "users.setPresence"
  | .postMessage _ => "chat.postMessage"
  | .sendCommand _ _ _ => "chat.command"
  | .markRead _ _ => "conversations.mark"
  | .connectEvents => "rtm.connect"

/-- A refusal of the token is told apart from refusals of other calls. -/
def refusal : Call → ApiError → ApiError
  | .authTest, .remote _ code => .unauthorized code
  | _, e => e

end Call

/-- What a session does to the outside: it takes a token, or makes a call. -/
inductive Step
  | acquire
  | call (c : Call)
deriving DecidableEq, Repr

end Remote

/-- The service as a session sees it: it answers each call, perhaps depending on all that was done before,
and lets live events be opened. A listing of more pages than `horizon` is given up as lost. -/
structure Remote where
  answer : List Remote.Step → (c : Remote.Call) → Except Remote.ApiError c.Reply
  openStream : String → Except Remote.ApiError Unit
  horizon : Nat

end TeamChat
