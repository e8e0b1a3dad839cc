import TeamChat.Json.Parser
import TeamChat.Wire.Post

/-!
# Live events

Events arrive as frames of text. The stream itself reports that it came up or went away; everything else
is read from frames.

## Contents
- `Wire.MessageEvent`: a post in a channel, perhaps with the post that replaces it.
- `Wire.ErrorNotice`: an error that the service reports.
- `Wire.Event`, `Wire.Event.label`: all events.
- `Wire.FrameError`, `Wire.Event.ofFrame`: reading frames.
-/

namespace TeamChat.Wire

open Json

/-! ## Events about posts -/

/-- A post that arrived, was edited or was removed. -/
structure MessageEvent where
  channel : String := ""
  post : Post := {}
  /-- What an edited post now is. -/
  replacement : Option Post := none
deriving DecidableEq, Repr, Inhabited

namespace MessageEvent

/-- The channel and the replacement; the post's own keys stand beside theirs. -/
def fields : List (RecordField MessageEvent) := [
  field "channel" Codec.text (·.channel) fun e x => { e with channel := x },
  field "message" (Codec.optional Post.codec) (·.replacement) fun e x => { e with replacement := x }]

/-- The event of an object: first its own keys are read, then those of the post. -/
def decode : Json → Except Mismatch MessageEvent
  | .obj members =>
    match Record.readMembers fields members {} with
    | .error e => .error e
    | .ok event =>
      match Record.readMembers Post.record.fields members {} with
      | .error e => .error e.counted
      | .ok post => .ok { event with post := post }
  | v => .error (.type v.found "struct MessageEvent")

/-- An object of the post's keys, the channel and the replacement. -/
def encode (e : MessageEvent) : Json :=
  object (Post.record.members e.post ++ fields.map fun f => (f.name, f.write e))

/-- How events about posts are written and read. -/
def codec : Codec MessageEvent := ⟨encode, decode⟩

end MessageEvent

/-! ## Error notices -/

/-- An error that the service reports on the stream. -/
structure ErrorNotice where
  code : Int := 0
  text : String := ""
deriving DecidableEq, Repr, Inhabited

namespace ErrorNotice

/-- An error notice as a record. -/
def record : Record ErrorNotice where
  name := "EventErrorBody"
  blank := {}
  complete := false
  fields := [
    field "code" Codec.signed (·.code) fun n x => { n with code := x },
    field "msg" Codec.text (·.text) fun n x => { n with text := x }]

/-- How error notices are written and read. -/
def codec : Codec ErrorNotice := record.codec

end ErrorNotice

/-! ## Events -/

/-- What happens on the stream. -/
inductive Event
  | connected
  | hello
  | message (body : MessageEvent)
  | presence (user presence : String)
  | error (notice : ErrorNotice)
  | goodbye
  | disconnected (reason : String)
  /-- An event of a kind that is of no concern here. -/
  | other (kind : String)
deriving DecidableEq, Repr, Inhabited

namespace Event

/-- A short name of an event. -/
def label : Event → String
  | .connected => "connected"
  | .hello => "hello"
  | .message _ => "message"
  | .presence _ _ => "presence_change"
  | .error _ => "error"
  | .goodbye => "goodbye"
  | .disconnected _ => "disconnected"
  | .other kind => kind

end Event

/-! ## Frames -/

/-- Why a frame cannot be read. -/
inductive FrameError
  /-- It is no JSON. -/
  | syntaxError
  | mismatch (m : Mismatch)
  | missingField (name : String)
deriving DecidableEq, Repr

/-- A frame error in words; what is wrong with the syntax is not said. -/
def FrameError.message? : FrameError → Option String
  | .syntaxError => none
  | .mismatch m => some ("Malformed frame: " ++ m.message)
  | .missingField name => some ("Frame is missing required field `" ++ name ++ "`")

/-- The text of a key; anything but a string counts as missing. -/
def textOf? (v : Json) (key : String) : Option String :=
  (v.get? key).bind Json.text?

namespace Event

/-- The event of a value. Its kind is the text of its type. -/
def ofJson (v : Json) : Except FrameError Event :=
  let kind := (textOf? v "type").getD ""
  if kind = "hello" then .ok .hello
  else if kind = "goodbye" then .ok .goodbye
  else if kind = "message" then
    ((MessageEvent.decode v).map Event.message).mapError FrameError.mismatch
  else if kind = "presence_change" then
    match textOf? v "user" with
    | none => .error (.missingField "user")
    | some user => .ok (.presence user ((textOf? v "presence").getD ""))
  else if kind = "error" then
    match v.get? "error" with
    | none => .ok (.error {})
    | some body => ((ErrorNotice.codec.decode body).map Event.error).mapError FrameError.mismatch
  else .ok (.other kind)

/-- The event of a frame. -/
def ofFrame (frame : String) : Except FrameError Event :=
  match parse? frame with
  | none => .error .syntaxError
  | some v => ofJson v

end Event

end TeamChat.Wire
