import TeamChat.Json.Codec

/-!
# Channels of the sidebar

## Contents
- `Channel.Kind`: the four kinds of conversation and their order.
- `Channel.Presence`: whether the other side of a direct conversation is there.
- `Channel.Style`, `Channel.Entry`: an entry of the sidebar.
-/

namespace TeamChat.Channel

open Json

/-! ## Kinds -/

/-- The kinds of conversation. -/
inductive Kind
  | channel
  | group
  | multiParty
  | direct
deriving DecidableEq, Repr, Inhabited

namespace Kind

/-- The order of the kinds in the sidebar. -/
def order : List Kind := [.channel, .group, .multiParty, .direct]

/-- The place of a kind in the order. -/
def index : Kind → Nat
  | .channel => 0
  | .group => 1
  | .multiParty => 2
  | .direct => 3

/-- The short name of a kind. -/
def text : Kind → String
  | .channel => "channel"
  | .group => "group"
  | .multiParty => "mpim"
  | .direct => "im"

/-- How kinds are written and read. -/
def codec : Codec Kind :=
  Codec.choice [("channel", .channel), ("group", .group), ("multi_party", .multiParty),
    ("direct", .direct)]

theorem order_getElem?_index (k : Kind) : order[k.index]? = some k := by
  cases k <;> rfl

end Kind

/-! ## Presence -/

/-- Whether somebody is there. -/
inductive Presence
  | active
  | away
  | unknown
deriving DecidableEq, Repr, Inhabited

namespace Presence

/-- The presence that the service reports in words. -/
def ofRemote (value : String) : Presence :=
  if value = "active" then .active
  else if value = "away" then .away
  else .unknown

/-- How presences are written and read. -/
def codec : Codec Presence :=
  Codec.choice [("active", .active), ("away", .away), ("unknown", .unknown)]

end Presence

/-! ## Entries -/

/-- Hints on how an entry is drawn. -/
structure Style where
  lead : String := ""
  icon : String := ""
  text : String := ""
deriving DecidableEq, Repr, Inhabited

/-- Style hints as a record. -/
def Style.record : Record Style where
  name := "StyleHints"
  blank := {}
  complete := true
  fields := [
    field "prefix" Codec.text (·.lead) fun s x => { s with lead := x },
    field "icon" Codec.text (·.icon) fun s x => { s with icon := x },
    field "text" Codec.text (·.text) fun s x => { s with text := x }]

/-- An entry of the sidebar. -/
structure Entry where
  id : String
  /-- The name that is shown; for a direct conversation, that of the other side. -/
  name : String
  topic : String := ""
  /-- The other side of a direct conversation. -/
  userId : String := ""
  presence : Presence := .unknown
  kind : Kind
  /-- Whether there is something new. -/
  notification : Bool := false
  style : Style := {}
deriving DecidableEq, Repr, Inhabited

namespace Entry

/-- An entry as a record. -/
def record : Record Entry where
  name := "ChannelEntry"
  blank := { id := "", name := "", kind := .channel }
  complete := true
  fields := [
    field "id" Codec.text (·.id) fun e x => { e with id := x },
    field "name" Codec.text (·.name) fun e x => { e with name := x },
    field "topic" Codec.text (·.topic) fun e x => { e with topic := x },
    field "user_id" Codec.text (·.userId) fun e x => { e with userId := x },
    field "presence" Presence.codec (·.presence) fun e x => { e with presence := x },
    field "kind" Kind.codec (·.kind) fun e x => { e with kind := x },
    field "notification" Codec.flag (·.notification) fun e x => { e with notification := x },
    field "style" Style.record.codec (·.style) fun e x => { e with style := x }]

/-- How entries are written and read. -/
def codec : Codec Entry := record.codec

/-- Whether the entry is a conversation with one other user. -/
def isDirect (e : Entry) : Bool :=
  e.kind = .direct

end Entry

end TeamChat.Channel
