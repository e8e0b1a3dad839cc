import TeamChat.Channel
import TeamChat.ClientError
import TeamChat.Session

/-!
# The list of channels

All parts of a listing are read, each conversation gets a kind or is left out, and the entries are put in
order: by kind, and inside a kind by name.

## Contents
- `Channel.classify`: the kind of a conversation.
- `Session.gather`: the entries of conversations.
- `Channel.arrange`: entries in the order of the sidebar.
- `Session.fetchAll`, `Session.fetchForUser`: the listings.
- `Session.presence`: whether a user is there.
-/

namespace TeamChat

open Remote (Listing ListingType)

namespace Channel

/-- The kind of a conversation, none if it is not listed. Among members only, channels and groups that the
user has not joined are not; conversations of several users are only listed while they are open. -/
def classify (membersOnly : Bool) (c : Wire.Conversation) : Option Kind :=
  if c.isDirect then some .direct
  else if membersOnly && !c.isMember then none
  else if c.isMultiParty then if c.isOpen then some .multiParty else none
  else if c.isGroup || (c.isChannel && c.isPrivate) then some .group
  else if c.isChannel then some .channel
  else none

/-- The kind of a conversation that is to be listed; public channels may be left out. -/
def listedAs (includePublic membersOnly : Bool) (c : Wire.Conversation) : Option Kind :=
  (classify membersOnly c).filter fun k => includePublic || k ≠ .channel

/-- The entry of a conversation. -/
def Entry.ofConversation (c : Wire.Conversation) (kind : Kind) : Entry where
  id := c.id
  name := c.name
  topic := c.topic.value
  userId := c.user
  kind := kind
  notification := 0 < c.unreadCount

/-- Entries of one kind, by name, and as they were listed if the names are equal. -/
def ofKind (k : Kind) (entries : List Entry) : List Entry :=
  (entries.filter fun e => e.kind = k).mergeSort fun a b => a.name ≤ b.name

/-- Entries in the order of the sidebar. -/
def arrange (entries : List Entry) : List Entry :=
  Kind.order.flatMap fun k => ofKind k entries

end Channel

namespace Session

open Channel (Entry Kind)

/-- The entry of a direct conversation, named for the other side; none if the other side has no name. -/
def directEntry (c : Wire.Conversation) : Session (Option Entry) := do
  match ← resolve c.user with
  | .ok name =>
    if name = unknownUser c.user then return none
    else
      return some { Entry.ofConversation c .direct with name := name, presence := .away }
  | .error _ => return none

/-- The entries of conversations, as they are listed. A conversation is passed over if one of its id, or a
direct one with the same user, has an entry already. -/
def gather (listedAs : Wire.Conversation → Option Kind) :
    List String → List String → List Wire.Conversation → Session (List Entry)
  | _, _, [] => return []
  | ids, users, c :: r =>
    match listedAs c with
    | none => gather listedAs ids users r
    | some kind =>
      if ids.contains c.id then gather listedAs ids users r
      else if kind = .direct then
        if users.contains c.user then gather listedAs ids users r
        else do
          match ← directEntry c with
          -- neither the id nor the user counts as seen, so a later one may still be listed
          | none => gather listedAs ids users r
          | some e => return e :: (← gather listedAs (c.id :: ids) (c.user :: users) r)
      else
        return Entry.ofConversation c kind :: (← gather listedAs (c.id :: ids) users r)

/-- The sidebar for conversations. -/
def aggregate (includePublic membersOnly : Bool) (cs : List Wire.Conversation) :
    Session (List Entry) := do
  return Channel.arrange (← gather (Channel.listedAs includePublic membersOnly) [] [] cs)

/-! ## Listings -/

/-- The conversations of the workspace, of some types. -/
def listConversations (types : List ListingType) :
    Session (Except Remote.ApiError (List Wire.Conversation)) :=
  collect fun cursor => call (.listConversations { types := types, cursor := cursor })

/-- The conversations that the user belongs to, of some types. -/
def listOwnConversations (types : List ListingType) :
    Session (Except Remote.ApiError (List Wire.Conversation)) :=
  collect fun cursor => call (.userConversations { types := types, cursor := cursor })

/-- The types that are listed besides public channels. -/
def privateTypes : List ListingType := [.privateChannel, .direct, .multiParty]

/-- The sidebar of all conversations that the user can see, with or without public channels. -/
def fetchAll (includePublic : Bool) : Session (Except Remote.ApiError (List Entry)) := do
  let types := if includePublic then .publicChannel :: privateTypes else privateTypes
  match ← listConversations types with
  | .error e => return .error e
  | .ok cs => return .ok (← aggregate includePublic true cs)

/-- The sidebar of the conversations that the user belongs to. -/
def fetchForUser : Session (Except Remote.ApiError (List Entry)) := do
  match ← listOwnConversations (.publicChannel :: privateTypes) with
  | .error e => return .error e
  | .ok cs => return .ok (← aggregate true false cs)

/-- Whether a user is there. -/
def presence (user : String) : Session (Except Remote.ApiError Channel.Presence) := do
  return (← call (.userPresence user)).map Channel.Presence.ofRemote

end Session

end TeamChat
