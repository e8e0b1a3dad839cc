import TeamChat.Numeral
import TeamChat.Register
import TeamChat.Remote.Http

/-!
# Workspaces held in memory

A workspace that is held in memory answers calls from what it holds: listings in pages, histories newest
first, and refusals of the calls that it is told to refuse. What is sent to it is accepted and forgotten.

## Contents
- `Workspace`: what it holds.
- `Workspace.pageAt`, `Workspace.window`: parts of listings and of histories.
- `Workspace.answer`, `Workspace.remote`: the service that it is.
-/

namespace TeamChat

open Remote (ApiError Call Page Identity)

/-- What a workspace holds. -/
structure Workspace where
  /-- Whom the token belongs to; without it the token is refused. -/
  identity : Option Identity := none
  users : Register Wire.User := {}
  presences : Register String := {}
  /-- The pages of the listing of conversations. -/
  conversations : List (List Wire.Conversation) := []
  /-- The page of that listing that is refused. -/
  refusedPage : Option Nat := none
  /-- The posts of each channel, newest first. -/
  histories : Register (List Wire.Post) := {}
  /-- The pages of the replies in each thread. -/
  replies : Register (List (List Wire.Post)) := {}
  /-- The methods that are refused, each with its error code. -/
  refusals : Register String := {}
  eventsUrl : Option String := none
deriving Repr

namespace Workspace

/-! ## Listings -/

/-- The index that a cursor stands for; no cursor stands for the first page. -/
def indexOf (cursor : String) : Nat :=
  (Numeral.readUnsigned? 10 UInt64.size cursor.toList).getD 0

/-- The page of an index. Its cursor is the next index; the last page, and one that is not there, has
none. -/
def pageAt {α : Type} (pages : List (List α)) (index : Nat) : Page α where
  items := pages.getD index []
  next := if index + 1 < pages.length then String.ofList (Numeral.decimal (index + 1)) else ""

/-- The newest posts that are not newer than a timestamp; no timestamp lets all of them through. -/
def window (posts : List Wire.Post) (latest : String) (limit : Nat) : List Wire.Post :=
  (posts.filter fun p => latest.isEmpty || p.stamp ≤ latest).take limit

/-! ## Answers -/

/-- A refusal with an error code. -/
def refuse (c : Call) (code : String) : ApiError :=
  c.refusal (.remote c.method code)

/-- Has a method refused, or served again. -/
def setRefusal (method : String) (code : Option String) (w : Workspace) : Workspace :=
  match code with
  | some code => { w with refusals := w.refusals.set method code }
  | none => { w with refusals := w.refusals.erase method }

/-- What is held for a call, or its refusal. -/
def held {α : Type} (c : Call) (code : String) : Option α → Except ApiError α
  | some x => .ok x
  | none => .error (refuse c code)

/-- A page of the listing of conversations. -/
def listing (w : Workspace) (c : Call) (cursor : String) : Except ApiError (Page Wire.Conversation) :=
  let index := indexOf cursor
  if w.refusedPage = some index then .error (refuse c "ratelimited")
  else .ok (pageAt w.conversations index)

/-- The answer to a call that is not refused by its method. -/
def serve (w : Workspace) : (c : Call) → Except ApiError c.Reply
  | .authTest => held .authTest "invalid_auth" w.identity
  | .listConversations q => w.listing (.listConversations q) q.cursor
  | .userConversations q => w.listing (.userConversations q) q.cursor
  | .history q => .ok ⟨window ((w.histories.get? q.channel).getD []) q.latest q.limit, ""⟩
  | .replies q => .ok (pageAt ((w.replies.get? q.stamp).getD []) (indexOf q.cursor))
  | .userInfo user => held (.userInfo user) "user_not_found" (w.users.get? user)
  | .userPresence user => held (.userPresence user) "user_not_found" (w.presences.get? user)
  | .setPresence _ => .ok ()
  | .postMessage _ => .ok ()
  | .sendCommand _ _ _ => .ok ()
  | .markRead _ _ => .ok ()
  | .connectEvents => held .connectEvents "not_supported" w.eventsUrl

/-- The answer to a call. -/
def answer (w : Workspace) (c : Call) : Except ApiError c.Reply :=
  match w.refusals.get? c.method with
  | some code => .error (refuse c code)
  | none => w.serve c

/-- The number of pages of the longest listing, and one more. -/
def horizon (w : Workspace) : Nat :=
  (w.replies.entries.map fun r => r.2.length).foldl max w.conversations.length + 1

/-- The workspace as a service. There is no network by which live events could be opened. -/
def remote (w : Workspace) : Remote where
  answer _ c := w.answer c
  openStream url := (Remote.Transport.unreachable.openStream url).mapError .webSocket
  horizon := w.horizon

end Workspace

end TeamChat
