import TeamChat.Json.Codec

/-!
# Posts as the service sends them

A post is an item of a history, a reply in a thread, or what a live event is about. Attachments and files
come with it.

## Contents
- `Wire.AttachmentField`, `Wire.Attachment`, `Wire.File`: what a post carries.
- `Wire.Post`, `Wire.Post.startsThread`: posts and the ones that threads hang from.
- `Wire.Attachment.lines`, `Wire.attachmentLines`, `Wire.File.line`: their text.
-/

namespace TeamChat.Wire

open Json

/-! ## Attachments and files -/

/-- A titled value of an attachment. -/
structure AttachmentField where
  title : String := ""
  value : String := ""
deriving DecidableEq, Repr, Inhabited

/-- An attachment's field as a record. -/
def AttachmentField.record : Record AttachmentField where
  name := "RawField"
  blank := {}
  complete := false
  fields := [
    field "title" Codec.text (·.title) fun f x => { f with title := x },
    field "value" Codec.text (·.value) fun f x => { f with value := x }]

/-- Text that is attached to a post. -/
structure Attachment where
  title : String := ""
  text : String := ""
  pretext : String := ""
  fields : List AttachmentField := []
deriving DecidableEq, Repr, Inhabited

namespace Attachment

/-- An attachment as a record. -/
def record : Record Attachment where
  name := "RawAttachment"
  blank := {}
  complete := false
  fields := [
    field "title" Codec.text (·.title) fun a x => { a with title := x },
    field "text" Codec.text (·.text) fun a x => { a with text := x },
    field "pretext" Codec.text (·.pretext) fun a x => { a with pretext := x },
    field "fields" (Codec.list AttachmentField.record.codec) (·.fields)
      fun a x => { a with fields := x }]

/-- A line for each field, then those of pretext, text and title that are not empty. -/
def lines (a : Attachment) : List String :=
  (a.fields.map fun f => f.title ++ " " ++ f.value)
    ++ [a.pretext, a.text, a.title].filter fun s => !s.isEmpty

end Attachment

/-- The lines of all attachments, in order. -/
def attachmentLines (attachments : List Attachment) : List String :=
  attachments.flatMap Attachment.lines

/-- A file that is shared with a post. -/
structure File where
  id : String := ""
  title : String := ""
  address : String := ""
deriving DecidableEq, Repr, Inhabited

namespace File

/-- A file as a record. -/
def record : Record File where
  name := "RawFile"
  blank := {}
  complete := false
  fields := [
    field "id" Codec.text (·.id) fun f x => { f with id := x },
    field "title" Codec.text (·.title) fun f x => { f with title := x },
    field "url_private" Codec.text (·.address) fun f x => { f with address := x }]

/-- The title and where the file is kept. -/
def line (f : File) : String :=
  f.title ++ " " ++ f.address

end File

/-! ## Posts -/

/-- A post. -/
structure Post where
  user : String := ""
  botId : String := ""
  /-- The name under which some bots post. -/
  username : String := ""
  text : String := ""
  stamp : String := ""
  threadStamp : String := ""
  subtype : String := ""
  attachments : List Attachment := []
  files : List File := []
deriving DecidableEq, Repr, Inhabited

namespace Post

/-- A post as a record. -/
def record : Record Post where
  name := "RawMessage"
  blank := {}
  complete := false
  fields := [
    field "user" Codec.text (·.user) fun p x => { p with user := x },
    field "bot_id" Codec.text (·.botId) fun p x => { p with botId := x },
    field "username" Codec.text (·.username) fun p x => { p with username := x },
    field "text" Codec.text (·.text) fun p x => { p with text := x },
    field "ts" Codec.text (·.stamp) fun p x => { p with stamp := x },
    field "thread_ts" Codec.text (·.threadStamp) fun p x => { p with threadStamp := x },
    field "subtype" Codec.text (·.subtype) fun p x => { p with subtype := x },
    field "attachments" (Codec.list Attachment.record.codec) (·.attachments)
      fun p x => { p with attachments := x },
    field "files" (Codec.list File.record.codec) (·.files) fun p x => { p with files := x }]

/-- How posts are written and read. -/
def codec : Codec Post := record.codec

/-- Whether a thread hangs from the post: it names itself as the start of its thread. -/
def startsThread (p : Post) : Bool :=
  !p.threadStamp.isEmpty && p.threadStamp = p.stamp

end Post

end TeamChat.Wire
