import TeamChat.Json.Codec

/-!
# Conversations as the service lists them

## Contents
- `Wire.Topic`, `Wire.Conversation`: the values and their records.
-/

namespace TeamChat.Wire

open Json

/-- What a conversation is about. -/
structure Topic where
  value : String := ""
deriving DecidableEq, Repr, Inhabited

/-- A topic as a record. -/
def Topic.record : Record Topic where
  name := "Topic"
  blank := {}
  complete := false
  fields := [field "value" Codec.text (·.value) fun t x => { t with value := x }]

/-- A conversation of a listing. -/
structure Conversation where
  id : String := ""
  name : String := ""
  isChannel : Bool := false
  isGroup : Bool := false
  isDirect : Bool := false
  isMultiParty : Bool := false
  isPrivate : Bool := false
  isMember : Bool := false
  isOpen : Bool := false
  isArchived : Bool := false
  /-- The other side of a direct conversation. -/
  user : String := ""
  unreadCount : Nat := 0
  topic : Topic := {}
deriving DecidableEq, Repr, Inhabited

namespace Conversation

/-- A conversation as a record. -/
def record : Record Conversation where
  name := "RawConversation"
  blank := {}
  complete := false
  fields := [
    field "id" Codec.text (·.id) fun c x => { c with id := x },
    field "name" Codec.text (·.name) fun c x => { c with name := x },
    field "is_channel" Codec.flag (·.isChannel) fun c x => { c with isChannel := x },
    field "is_group" Codec.flag (·.isGroup) fun c x => { c with isGroup := x },
    field "is_im" Codec.flag (·.isDirect) fun c x => { c with isDirect := x },
    field "is_mpim" Codec.flag (·.isMultiParty) fun c x => { c with isMultiParty := x },
    field "is_private" Codec.flag (·.isPrivate) fun c x => { c with isPrivate := x },
    field "is_member" Codec.flag (·.isMember) fun c x => { c with isMember := x },
    field "is_open" Codec.flag (·.isOpen) fun c x => { c with isOpen := x },
    field "is_archived" Codec.flag (·.isArchived) fun c x => { c with isArchived := x },
    field "user" Codec.text (·.user) fun c x => { c with user := x },
    field "unread_count" (Codec.unsigned "u64") (·.unreadCount) fun c x => { c with unreadCount := x },
    field "topic" Topic.record.codec (·.topic) fun c x => { c with topic := x }]

/-- How conversations are written and read. -/
def codec : Codec Conversation := record.codec

end Conversation

end TeamChat.Wire
