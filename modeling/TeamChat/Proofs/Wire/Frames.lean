import TeamChat.Channel
import TeamChat.Proofs.Json.Legible
import TeamChat.Wire.Conversation
import TeamChat.Wire.Event
import TeamChat.Wire.User

/-!
# `Wire.Frames`: what the service sends, read back

Every record that is exchanged with the service comes back from its value. An event about a post writes the keys of
the post beside its own and reads the object twice, once for each; with the key that tells its kind added, its text
is a frame that holds it (`ofFrame_frame`).

## Contents
- `Conversation.restores`, `Post.restores`, `User.restores`, `ErrorNotice.restores`, `Entry.restores`: the records.
- `Post.legible`: posts nest five levels deep.
- `MessageEvent.decode_of_mem`, `MessageEvent.restores`: events about posts.
- `MessageEvent.frame`, `ofFrame_frame`: their frames.
-/

namespace TeamChat

open Json

/-- A value with one more member, if it is an object. -/
def Json.adding (w : Json) (key : String) (v : Json) : Json :=
  match w with
  | .obj ms => .obj (put key v ms)
  | w => w

/-! ## Entries of the sidebar -/

namespace Channel

theorem Kind.restores (k : Kind) : Kind.codec.Restores k :=
  Codec.restores_choice (by decide) (by cases k <;> decide)

theorem Presence.restores (p : Presence) : Presence.codec.Restores p :=
  Codec.restores_choice (by decide) (by cases p <;> decide)

theorem Style.orderly : Orderly Style.record.fields where
  names := by decide
  independent := by simp [Style.record, independent_field]

theorem Style.restores (s : Style) : Style.record.codec.Restores s := by
  refine Style.orderly.restores ?_
  simp [Style.record, written, readAll_field]

theorem Entry.orderly : Orderly Entry.record.fields where
  names := by decide
  independent := by simp [Entry.record, independent_field]

theorem Entry.restores (e : Entry) : Entry.codec.Restores e := by
  refine Entry.orderly.restores ?_
  simp [Entry.record, written, readAll_field, Kind.restores, Presence.restores, Style.restores]

end Channel

namespace Wire

/-! ## Conversations, users and error notices -/

theorem Topic.orderly : Orderly Topic.record.fields where
  names := by decide
  independent := by simp [Topic.record]

theorem Topic.restores (t : Topic) : Topic.record.codec.Restores t := by
  refine Topic.orderly.restores ?_
  simp [Topic.record, written, readAll_field]

theorem Conversation.orderly : Orderly Conversation.record.fields where
  names := by decide
  independent := by simp [Conversation.record, independent_field]

theorem Conversation.restores {c : Conversation} (h : c.unreadCount < UInt64.size) :
    Conversation.codec.Restores c := by
  refine Conversation.orderly.restores ?_
  have count : (Codec.unsigned "u64").Restores c.unreadCount := Codec.restores_unsigned h
  simp [Conversation.record, written, readAll_field, count, Topic.restores]

theorem User.orderly : Orderly User.record.fields where
  names := by decide
  independent := by simp [User.record, independent_field]

theorem User.restores (u : User) : User.codec.Restores u := by
  refine User.orderly.restores ?_
  simp [User.record, written, readAll_field]

theorem ErrorNotice.orderly : Orderly ErrorNotice.record.fields where
  names := by decide
  independent := by simp [ErrorNotice.record, independent_field]

theorem ErrorNotice.restores {n : ErrorNotice}
    (h : Int64.minValue.toInt ≤ n.code ∧ n.code ≤ Int64.maxValue.toInt) : ErrorNotice.codec.Restores n := by
  refine ErrorNotice.orderly.restores ?_
  have code : Codec.signed.Restores n.code := Codec.restores_signed h
  simp [ErrorNotice.record, written, readAll_field, code]

/-! ## Posts -/

theorem AttachmentField.orderly : Orderly AttachmentField.record.fields where
  names := by decide
  independent := by simp [AttachmentField.record, independent_field]

theorem AttachmentField.restores (f : AttachmentField) : AttachmentField.record.codec.Restores f := by
  refine AttachmentField.orderly.restores ?_
  simp [AttachmentField.record, written, readAll_field]

theorem Attachment.orderly : Orderly Attachment.record.fields where
  names := by decide
  independent := by simp [Attachment.record, independent_field]

theorem Attachment.restores (a : Attachment) : Attachment.record.codec.Restores a := by
  refine Attachment.orderly.restores ?_
  have fields : (Codec.list AttachmentField.record.codec).Restores a.fields :=
    Codec.restores_list fun f _ => f.restores
  simp [Attachment.record, written, readAll_field, fields]

theorem File.orderly : Orderly File.record.fields where
  names := by decide
  independent := by simp [File.record, independent_field]

theorem File.restores (f : File) : File.record.codec.Restores f := by
  refine File.orderly.restores ?_
  simp [File.record, written, readAll_field]

theorem Post.orderly : Orderly Post.record.fields where
  names := by decide
  independent := by simp [Post.record, independent_field]

/-- What a post writes is put together to it, one field after the other. -/
theorem Post.readAll_written (p : Post) : readAll (written Post.record.fields p) {} = .ok p := by
  have attachments : (Codec.list Attachment.record.codec).Restores p.attachments :=
    Codec.restores_list fun a _ => a.restores
  have files : (Codec.list File.record.codec).Restores p.files :=
    Codec.restores_list fun f _ => f.restores
  simp [Post.record, written, readAll_field, attachments, files]

theorem Post.restores (p : Post) : Post.codec.Restores p :=
  Post.orderly.restores p.readAll_written

/-- The text fields of a record are legible at any depth. -/
@[simp] theorem legible_text {k : Nat} (s : String) : Legible k (Codec.text.encode s) :=
  .str s

theorem AttachmentField.legible {k : Nat} (f : AttachmentField) : Legible (k + 1) (AttachmentField.record.codec.encode f) := by
  refine legible_record ?_
  simp [AttachmentField.record]

theorem Attachment.legible {k : Nat} (a : Attachment) : Legible (k + 3) (Attachment.record.codec.encode a) := by
  refine legible_record ?_
  have fields : Legible (k + 2) ((Codec.list AttachmentField.record.codec).encode a.fields) :=
    legible_list fun f _ => f.legible
  simp [Attachment.record, fields]

theorem File.legible {k : Nat} (f : File) : Legible (k + 1) (File.record.codec.encode f) := by
  refine legible_record ?_
  simp [File.record]

theorem Post.legible_write {k : Nat} (p : Post) : ∀ f ∈ Post.record.fields, Legible (k + 4) (f.write p) := by
  have attachments : Legible (k + 4) ((Codec.list Attachment.record.codec).encode p.attachments) :=
    legible_list fun a _ => a.legible
  have files : Legible (k + 4) ((Codec.list File.record.codec).encode p.files) :=
    legible_list fun f _ => f.legible
  simp [Post.record, attachments, files]

/-- A post nests five levels deep. -/
theorem Post.legible {k : Nat} (p : Post) : Legible (k + 5) (Post.codec.encode p) :=
  legible_record p.legible_write

/-! ## Events about posts -/

namespace MessageEvent

theorem orderly : Orderly fields where
  names := by decide
  independent := by simp [fields, independent_field]

theorem restores_replacement (p : Option Post) : (Codec.optional Post.codec).Restores p := by
  cases p with
  | none => exact Codec.restores_none
  | some p => exact Codec.restores_some p.restores nofun

/-- The members that an event writes: those of its post and its own. -/
def members (e : MessageEvent) : List (String × Json) :=
  Post.record.members e.post ++ fields.map fun f => (f.name, f.write e)

theorem keys_members (e : MessageEvent) :
    keys e.members = Post.record.fields.map (·.name) ++ fields.map (·.name) := by
  simp [keys, members, Record.members, Function.comp_def]

theorem nodup_keys (e : MessageEvent) : (keys e.members).Nodup := by
  rw [keys_members]
  decide

/-- **An event is read from every object** that has the members of the event, whatever else there is in it. -/
theorem decode_of_mem {e : MessageEvent} {ms : List (String × Json)} (hk : (keys ms).Nodup)
    (h : ∀ m ∈ e.members, m ∈ ms) : decode (.obj ms) = .ok e := by
  have own (f : RecordField MessageEvent) (hf : f ∈ fields) : (f.name, f.write e) ∈ ms :=
    h _ (List.mem_append_right _ (List.mem_map_of_mem hf))
  have post (f : RecordField Post) (hf : f ∈ Post.record.fields) : (f.name, f.write e.post) ∈ ms :=
    h _ (List.mem_append_left _ (mem_members hf))
  -- the object is read for the fields of the event, and once more for those of the post
  have first : Record.readMembers fields ms {} = .ok { e with post := {} } := by
    refine readMembers_of_mem orderly hk own ?_
    simp [fields, written, readAll_field, restores_replacement]
  have second := readMembers_of_mem Post.orderly hk post e.post.readAll_written
  simp only [decode, first, second]

theorem encode_eq (e : MessageEvent) : codec.encode e = .obj (collect e.members []) := by
  unfold codec encode object collect members
  rfl

theorem collect_members (e : MessageEvent) : (collect e.members []).Perm e.members :=
  collect_perm e.nodup_keys

theorem keys_collect (e : MessageEvent) : (keys (collect e.members [])).Nodup :=
  (e.collect_members.map _).nodup_iff.mpr e.nodup_keys

theorem restores (e : MessageEvent) : codec.Restores e := by
  have read := decode_of_mem e.keys_collect fun m hm => e.collect_members.mem_iff.mpr hm
  unfold Codec.Restores
  rw [encode_eq]
  simp only [codec, read]

/-! ## Frames -/

/-- The value of an event with its kind added. -/
def framed (e : MessageEvent) : Json :=
  (codec.encode e).adding "type" (.str "message")

/-- A frame that holds an event. `plain` says which characters are not escaped. -/
def frame (plain : Char → Bool) (e : MessageEvent) : String :=
  String.ofList (print plain e.framed)

theorem framed_eq (e : MessageEvent) :
    e.framed = .obj (put "type" (.str "message") (collect e.members [])) := by
  unfold framed
  rw [encode_eq]
  rfl

theorem legible_members {k : Nat} {e : MessageEvent} {m : String × Json} (hm : m ∈ e.members) :
    Legible (k + 5) m.2 := by
  have own : ∀ f ∈ fields, Legible (k + 5) (f.write e) := by
    have replacement : Legible (k + 5) ((Codec.optional Post.codec).encode e.replacement) := by
      cases e.replacement with
      | none => exact .null
      | some p => exact p.legible
    simp [fields, replacement]
  rcases List.mem_append.mp hm with hm | hm
  · obtain ⟨f, hf, rfl⟩ := List.mem_map.mp hm
    exact Post.legible_write (k := k + 1) e.post f hf
  · obtain ⟨f, hf, rfl⟩ := List.mem_map.mp hm
    exact own f hf

theorem legible_framed {k : Nat} (e : MessageEvent) : Legible (k + 6) e.framed := by
  rw [framed_eq]
  refine .obj _ (sorted_put (sorted_collect List.Pairwise.nil)) ?_
  intro m hm
  rcases mem_put hm with rfl | hm
  · exact .str "message"
  · exact legible_members (e.collect_members.mem_iff.mp hm)

theorem decode_framed (e : MessageEvent) : decode e.framed = .ok e := by
  have fresh : "type" ∉ keys (collect e.members []) := by
    rw [keys, (e.collect_members.map _).mem_iff, ← keys, keys_members]
    decide
  have perm : (put "type" (.str "message") (collect e.members [])).Perm
      (("type", .str "message") :: collect e.members []) := put_perm fresh
  have nodup : (keys (put "type" (.str "message") (collect e.members []))).Nodup :=
    (perm.map _).nodup_iff.mpr (List.nodup_cons.mpr ⟨fresh, e.keys_collect⟩)
  rw [framed_eq]
  refine decode_of_mem nodup fun m hm => perm.mem_iff.mpr (List.mem_cons_of_mem _ ?_)
  exact e.collect_members.mem_iff.mpr hm

/-- **A frame of an event holds the event.** -/
theorem ofFrame_frame (plain : Char → Bool) (e : MessageEvent) :
    Event.ofFrame (e.frame plain) = .ok (.message e) := by
  have legible : Legible maxDepth e.framed := e.legible_framed
  have kind : textOf? e.framed "type" = some "message" := by
    unfold textOf?
    rw [framed_eq]
    show (find? "type" (put "type" (.str "message") (collect e.members []))).bind text? = _
    rw [find?_put_self]
    rfl
  unfold Event.ofFrame frame
  rw [parse?_print legible]
  show Event.ofJson e.framed = _
  unfold Event.ofJson
  rw [kind]
  simp [decode_framed, Except.map, Except.mapError]

end MessageEvent

end Wire

end TeamChat
