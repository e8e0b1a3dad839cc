import TeamChat.Calendar.Reader
import TeamChat.Json.Codec

/-!
# Messages as they are shown

A message may carry others: the lines of its attachments, its files, and the replies in its thread.

## Contents
- `SubKey`, `SubMessage`, `Message`: the values.
- `Message.sub?`, `Message.replies`, `Message.startsThread`: what a message carries.
- `Message.codec`: how messages are written and read.
-/

namespace TeamChat

open Json

/-- What a carried message is: a line of an attachment, a file, or a reply. -/
inductive SubKey
  | attachment (index : Nat)
  | file (id : String)
  | reply (stamp : String)
deriving DecidableEq, Repr

/-- The key in words. -/
def SubKey.text : SubKey → String
  | .attachment index => String.ofList (Numeral.decimal index)
  | .file id => id
  | .reply stamp => stamp

/-- A message that another one carries. -/
structure SubMessage (μ : Type) where
  key : SubKey
  message : μ
deriving Repr

/-- A message. -/
structure Message where
  /-- The timestamp, which names the message within its channel. -/
  id : String
  time : Calendar.Instant
  name : String
  content : String
  /-- The alias of the thread that hangs from the message, empty if there is none. -/
  thread : String
  messages : List (SubMessage Message)
deriving Repr

namespace Message

/-- A message that holds no text. -/
def blank : Message := ⟨"", .epoch, "", "", "", []⟩

instance : Inhabited Message := ⟨blank⟩

/-! ## What a message carries -/

/-- Whether a thread hangs from the message. -/
def startsThread (m : Message) : Bool :=
  !m.thread.isEmpty

/-- The message carried under a key. -/
def sub? (m : Message) (key : SubKey) : Option Message :=
  (m.messages.find? fun s => s.key = key).map (·.message)

/-- The replies, in the order in which they were attached. -/
def replies (m : Message) : List Message :=
  m.messages.filterMap fun s =>
    match s.key with
    | .reply _ => some s.message
    | _ => none

end Message

/-! ## Keys as JSON -/

namespace SubKey

/-- A key is an object of one member, named for what is carried. -/
def encode : SubKey → Json
  | .attachment index => .obj [("Attachment", Json.int index)]
  | .file id => .obj [("File", .str id)]
  | .reply stamp => .obj [("Reply", .str stamp)]

/-- What a name and the value that comes with it stand for. -/
def ofVariant (name : String) (payload : Option Json) : Except Mismatch SubKey :=
  let value {α : Type} (c : Codec α) : Except Mismatch α :=
    match payload with
    | none => .error (.type .bareVariant "newtype variant")
    | some v => c.decode v
  if name = "Attachment" then (value (Codec.unsigned "usize")).map .attachment
  else if name = "File" then (value Codec.text).map .file
  else if name = "Reply" then (value Codec.text).map .reply
  else .error (.variant name ["Attachment", "File", "Reply"])

/-- The key of a value. -/
def decode (v : Json) : Except Mismatch SubKey :=
  match Codec.tagged v with
  | .error e => .error e
  | .ok (name, payload) => ofVariant name payload

/-- How keys are written and read. -/
def codec : Codec SubKey := ⟨encode, decode⟩

end SubKey

/-! ## Messages as JSON -/

/-- How instants are written and read. -/
def Calendar.Instant.codec : Codec Calendar.Instant where
  encode t := .str t.toText
  decode
    | .str s => (Calendar.Instant.ofText s).mapError fun e => .format e.message
    | v => .error (.type v.found "an RFC 3339 formatted date and time string")

/-- A carried message as a record, given how messages are written. -/
def SubMessage.record (inner : Codec Message) : Record (SubMessage Message) where
  name := "SubMessage"
  blank := ⟨.attachment 0, .blank⟩
  complete := true
  fields := [
    field "key" SubKey.codec (·.key) fun s x => { s with key := x },
    field "message" inner (·.message) fun s x => { s with message := x }]

namespace Message

/-- A message as a record, given how the messages that it carries are written. -/
def record (inner : Codec Message) : Record Message where
  name := "Message"
  blank := .blank
  complete := true
  fields := [
    field "id" Codec.text (·.id) fun m x => { m with id := x },
    field "time" Calendar.Instant.codec (·.time) fun m x => { m with time := x },
    field "name" Codec.text (·.name) fun m x => { m with name := x },
    field "content" Codec.text (·.content) fun m x => { m with content := x },
    field "thread" Codec.text (·.thread) fun m x => { m with thread := x },
    field "messages" (Codec.list (SubMessage.record inner).codec) (·.messages)
      fun m x => { m with messages := x }]

/-- How messages that carry others up to a depth are written and read. -/
def codecOfDepth : Nat → Codec Message
  | 0 => ⟨fun _ => .null, fun v => .error (.type v.found "struct Message")⟩
  | n + 1 => (record (codecOfDepth n)).codec

/-- How deep messages are carried. -/
def height : Message → Nat
  | ⟨_, _, _, _, _, messages⟩ => heights messages + 1
where
  heights : List (SubMessage Message) → Nat
    | [] => 0
    | ⟨_, m⟩ :: r => max (height m) (heights r)

/-- How messages are written and read. A value holds no message deeper than its own nesting. -/
def codec : Codec Message where
  encode m := (codecOfDepth m.height).encode m
  decode v := (codecOfDepth (v.depth + 1)).decode v

end Message

end TeamChat
