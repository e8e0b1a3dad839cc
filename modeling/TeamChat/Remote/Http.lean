import TeamChat.Json.Parser
import TeamChat.Remote.Call
import TeamChat.Remote.Form

/-!
# Calls as requests

Every call is a posted form at an address that ends in the name of the call. The answer is an object that
says whether the call was accepted, and holds the values that were asked for beside that.

## Contents
- `Client`, `Client.make`: how the service is reached.
- `Call.form`, `Client.request`: the request of a call.
- `Call.reply`, `Client.read`: the answer of a response.
- `Transport`, `Client.call`, `Client.remote`: calls over a network.
-/

namespace TeamChat.Remote

open Json

/-! ## Clients -/

/-- How the service is reached. -/
structure Client where
  /-- The address that names of calls are appended to. -/
  apiUrl : String
  token : String
  cookie : Option String
deriving DecidableEq, Repr

namespace Client

/-- The usual address. -/
def defaultUrl : String := "https://slack.com/api/"

/-- An address that ends in a slash. -/
def normalize (url : String) : String :=
  if url.endsWith "/" then url else url ++ "/"

/-- A client; an empty cookie counts as none. -/
def make (token : String) (apiUrl cookie : Option String) : Client :=
  ⟨normalize (apiUrl.getD defaultUrl), token, cookie.filter fun c => !c.isEmpty⟩

end Client

/-! ## Requests -/

/-- A request that posts a form. -/
structure Request where
  url : String
  authorization : String
  cookie : Option String
  body : String
deriving DecidableEq, Repr

/-- A value that may be left out. -/
def unlessEmpty (key value : String) : List (String × String) :=
  if value.isEmpty then [] else [(key, value)]

/-- A truth value in words. -/
def flagText (b : Bool) : String :=
  if b then "true" else "false"

/-- The form of a listing. -/
def Listing.form (q : Listing) : List (String × String) :=
  [("types", q.typesText), ("exclude_archived", flagText q.excludeArchived),
    ("limit", countText q.limit)] ++ unlessEmpty "cursor" q.cursor

/-- The form of a call. -/
def Call.form : Call → List (String × String)
  | .authTest => []
  | .listConversations q => q.form
  | .userConversations q => q.form
  | .history q =>
    [("channel", q.channel), ("limit", countText q.limit), ("inclusive", flagText q.inclusive)]
      ++ unlessEmpty "oldest" q.oldest ++ unlessEmpty "latest" q.latest
      ++ unlessEmpty "cursor" q.cursor
  | .replies q =>
    [("channel", q.channel), ("ts", q.stamp), ("limit", countText q.limit)]
      ++ unlessEmpty "cursor" q.cursor
  | .userInfo user => [("user", user)]
  | .userPresence user => [("user", user)]
  | .setPresence presence => [("presence", presence)]
  | .postMessage p =>
    [("channel", p.channel), ("text", p.text), ("as_user", "true"), ("link_names", "1")]
      ++ unlessEmpty "thread_ts" p.threadStamp ++ unlessEmpty "username" p.username
  | .sendCommand channel command text =>
    [("channel", channel), ("command", command), ("text", text)]
  | .markRead channel stamp => [("channel", channel), ("ts", stamp)]
  | .connectEvents => []

/-- Whether a text can be the value of a header: it holds no control character but the tab. -/
def isHeaderValue (s : String) : Bool :=
  s.toList.all fun c => (0x20 ≤ c.toNat || c = '\t') && c.toNat ≠ 0x7F

/-- The address of a call. -/
def Client.url (k : Client) (c : Call) : String :=
  k.apiUrl ++ c.method

/-- The request of a call. -/
def Client.request (k : Client) (c : Call) : Except HttpFailure Request :=
  if isHeaderValue k.token && k.cookie.all isHeaderValue then
    .ok ⟨k.url c, "Bearer " ++ k.token, k.cookie, Form.encode c.form⟩
  else .error .builder

/-! ## Responses -/

/-- A response. -/
structure Response where
  status : Nat
  body : String
deriving DecidableEq, Repr

/-- The value of an answer, unless the service refuses the call. -/
def accepted (method : String) (v : Json) : Except ApiError Json :=
  if ((v.get? "ok").bind Json.flag?).getD false then .ok v
  else .error (.remote method (((v.get? "error").bind Json.text?).getD "unknown_error"))

/-- A value beside it; one that is missing or null has a default. -/
def valueOr {α : Type} (c : Codec α) (default : α) (key : String) (v : Json) : Except ApiError α :=
  match v.get? key with
  | none | some .null => .ok default
  | some w => (c.decode w).mapError .decode

/-- A text beside it; anything but a string counts as empty. -/
def textOr (key : String) (v : Json) : String :=
  ((v.get? key).bind Json.text?).getD ""

/-- A part of a listing. -/
def pageOf {α : Type} (c : Codec α) (key : String) (v : Json) : Except ApiError (Page α) :=
  match valueOr (Codec.list c) [] key v with
  | .error e => .error e
  | .ok items =>
    let next := (v.get? "response_metadata").bind fun m => (m.get? "next_cursor").bind Json.text?
    .ok ⟨items, next.getD ""⟩

/-- The answer to a call in an accepted value. -/
def Call.reply : (c : Call) → Json → Except ApiError c.Reply
  | .authTest, v => .ok ⟨textOr "user_id" v, textOr "user" v, textOr "team" v⟩
  | .listConversations _, v => pageOf Wire.Conversation.codec "channels" v
  | .userConversations _, v => pageOf Wire.Conversation.codec "channels" v
  | .history _, v => pageOf Wire.Post.codec "messages" v
  | .replies _, v => pageOf Wire.Post.codec "messages" v
  | .userInfo _, v => valueOr Wire.User.codec {} "user" v
  | .userPresence _, v => valueOr Codec.text "" "presence" v
  | .setPresence _, _ => .ok ()
  | .postMessage _, _ => .ok ()
  | .sendCommand _ _ _, _ => .ok ()
  | .markRead _ _, _ => .ok ()
  | .connectEvents, v => valueOr Codec.text "" "url" v

/-- The answer to a call in a response. -/
def Client.read (k : Client) (c : Call) (r : Response) : Except ApiError c.Reply :=
  if 400 ≤ r.status ∧ r.status < 600 then .error (.http (.status (k.url c) r.status))
  else
    match parse? r.body with
    | none => .error (.http (.body (k.url c)))
    | some v =>
      match accepted c.method v with
      | .error e => .error (c.refusal e)
      | .ok v => c.reply v

/-! ## Networks -/

/-- A network: how requests are answered, and whether live events can be opened at an address. -/
structure Transport where
  exchange : Request → Except HttpFailure Response
  openStream : String → Except String Unit

/-- The network that no other machine can be reached by. -/
def Transport.unreachable : Transport where
  exchange r := .error (.transport r.url
    ["client error (Connect)", "tcp connect error", "Network is unreachable (os error 101)"])
  openStream _ := .error "IO error: Network is unreachable (os error 101)"

/-- The answer to a call over a network. -/
def Client.call (k : Client) (t : Transport) (c : Call) : Except ApiError c.Reply :=
  match k.request c with
  | .error f => .error (.http f)
  | .ok r =>
    match t.exchange r with
    | .error f => .error (.http f)
    | .ok response => k.read c response

/-- Whether the service sees the request of a call. -/
def Client.reaches (k : Client) (t : Transport) (c : Call) : Bool :=
  match k.request c with
  | .error _ => false
  | .ok r =>
    match t.exchange r with
    | .error _ => false
    | .ok _ => true

/-- The service over a network. -/
def Client.remote (k : Client) (t : Transport) (horizon : Nat) : Remote where
  answer _ c := k.call t c
  openStream url := (t.openStream url).mapError .webSocket
  horizon := horizon

end TeamChat.Remote
