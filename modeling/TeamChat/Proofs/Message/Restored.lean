import TeamChat.Message
import TeamChat.Proofs.Calendar.Form
import TeamChat.Proofs.Wire.Frames
import TeamChat.Stamp

/-!
# `Message.Restored`: messages read back

A message carries others to any depth. It is written by a codec that is made for its height, and read by one that is
made for the nesting of the value; the first writes what any higher one would (`encode_of_le`), and the nesting of
the value is at least the height (`height_le_depth`). So one induction on the depth of a codec shows that it reads
back what it writes (`restores_of_le`), and messages come back whole, as everything does that is exchanged
(`everything_restored`).

## Contents
- `Calendar.Instant.restores`, `SubKey.restores`: times and keys.
- `Message.Fits`: messages whose times and keys can be written.
- `Message.restores_of_le`, `Message.encode_of_le`, `Message.height_le_depth`: codecs of a depth.
- `everything_restored`: everything that is written as JSON.
-/

namespace TeamChat

open Json

/-! ## Times and keys -/

theorem Calendar.Instant.restores {t : Calendar.Instant} (h : t.IsWhole) : Calendar.Instant.codec.Restores t := by
  simp only [Codec.Restores, Calendar.Instant.codec, Calendar.Instant.ofText_toText h, Except.mapError]

/-- What a stamp is shown as can be written. -/
theorem Stamp.isWhole_instant (stamp : String) : (Stamp.instant stamp).IsWhole := by
  unfold Stamp.instant Calendar.Instant.ofSeconds?
  split
  · next h => exact ⟨rfl, h⟩
  · exact ⟨rfl, rfl⟩

namespace SubKey

/-- A place among attachments is a number of 64 bits. -/
def Fits : SubKey → Prop
  | .attachment index => index < UInt64.size
  | _ => True

theorem decode_attachment (v : Json) :
    SubKey.codec.decode (.obj [("Attachment", v)]) = ((Codec.unsigned "usize").decode v).map .attachment := rfl

theorem restores {k : SubKey} (h : k.Fits) : SubKey.codec.Restores k := by
  cases k with
  | attachment index =>
      have value : (Codec.unsigned "usize").decode (Json.int index) = .ok index := Codec.restores_unsigned h
      have encoded : SubKey.codec.encode (.attachment index) = .obj [("Attachment", Json.int index)] := rfl
      unfold Codec.Restores
      rw [encoded, decode_attachment, value]
      rfl
  | file id => rfl
  | reply stamp => rfl

end SubKey

namespace Message

/-! ## Heights -/

variable {m : Message} {n : Nat}

/-- A message whose times can be shown and whose keys are in range, and so are those of the messages that it
    carries. -/
inductive Fits : Message → Prop
  | intro {m : Message} (time : m.time.IsWhole) (keys : ∀ s ∈ m.messages, s.key.Fits)
      (messages : ∀ s ∈ m.messages, Fits s.message) : Fits m

theorem height_le_heights {l : List (SubMessage Message)} {s : SubMessage Message} (h : s ∈ l) :
    s.message.height ≤ height.heights l := by
  induction l with
  | nil => cases h
  | cons t l ih =>
      rcases List.mem_cons.mp h with rfl | h
      · exact Nat.le_max_left _ _
      · exact Nat.le_trans (ih h) (Nat.le_max_right _ _)

theorem heights_le {l : List (SubMessage Message)} (h : ∀ s ∈ l, s.message.height ≤ n) : height.heights l ≤ n := by
  induction l with
  | nil => exact Nat.zero_le n
  | cons t l ih =>
      exact Nat.max_le.mpr ⟨h t List.mem_cons_self, ih fun s hs => h s (List.mem_cons_of_mem _ hs)⟩

theorem height_eq (m : Message) : m.height = height.heights m.messages + 1 := by
  cases m
  rfl

/-- What is carried is lower. -/
theorem height_lt {s : SubMessage Message} (h : s ∈ m.messages) : s.message.height < m.height := by
  rw [height_eq m]
  exact Nat.lt_succ_of_le (height_le_heights h)

/-! ## Codecs of a depth -/

theorem subMessage_orderly (inner : Codec Message) : Orderly (SubMessage.record inner).fields where
  names := by simp [SubMessage.record, field]
  independent := by simp [SubMessage.record, independent_field]

theorem orderly (inner : Codec Message) : Orderly (record inner).fields where
  names := by simp [record, field]
  independent := by simp [record, independent_field]

/-- **One level of a message** comes back if what it carries does. -/
theorem restores_record {inner : Codec Message} (time : m.time.IsWhole) (keys : ∀ s ∈ m.messages, s.key.Fits)
    (messages : ∀ s ∈ m.messages, inner.Restores s.message) : (record inner).codec.Restores m := by
  have carried : (Codec.list (SubMessage.record inner).codec).Restores m.messages := by
    refine Codec.restores_list fun s hs => (subMessage_orderly inner).restores ?_
    have key : SubKey.codec.Restores s.key := SubKey.restores (keys s hs)
    have message : inner.Restores s.message := messages s hs
    simp [SubMessage.record, written, readAll_field, key, message]
  have shown : Calendar.Instant.codec.Restores m.time := Calendar.Instant.restores time
  refine (orderly inner).restores ?_
  simp only [record, written, List.map_cons, List.map_nil, write_field, readAll_field, Codec.restores_text, shown,
    carried, readAll_nil]
  cases m
  rfl

/-- **A codec reads back what it writes** of messages that are no higher than it is deep. -/
theorem restores_of_le (h : m.height ≤ n) (hf : m.Fits) : (codecOfDepth n).Restores m := by
  induction n generalizing m with
  | zero =>
      rw [height_eq m] at h
      cases h
  | succ n ih =>
      obtain ⟨time, keys, messages⟩ := hf
      refine restores_record time keys fun s hs => ih ?_ (messages s hs)
      exact Nat.le_of_lt_succ (Nat.lt_of_lt_of_le (height_lt hs) h)

/-! ## Codecs of other depths -/

/-- What is written of a message depends on nothing but what is written of the messages that it carries. -/
theorem encode_record {c c' : Codec Message} (h : ∀ s ∈ m.messages, c.encode s.message = c'.encode s.message) :
    (record c).codec.encode m = (record c').codec.encode m := by
  have carried : (Codec.list (SubMessage.record c).codec).encode m.messages =
      (Codec.list (SubMessage.record c').codec).encode m.messages := by
    refine congrArg Json.arr (List.map_congr_left fun s hs => congrArg object ?_)
    simp only [Record.members, SubMessage.record, field, List.map_cons, List.map_nil, h s hs]
  refine congrArg object ?_
  simp only [Record.members, record, field, List.map_cons, List.map_nil, carried]

/-- **Every codec that is deep enough** writes the same. -/
theorem encode_of_le {k : Nat} (hn : m.height ≤ n) (hk : m.height ≤ k) :
    (codecOfDepth n).encode m = (codecOfDepth k).encode m := by
  induction n generalizing m k with
  | zero =>
      rw [height_eq m] at hn
      cases hn
  | succ n ih =>
      cases k with
      | zero =>
          rw [height_eq m] at hk
          cases hk
      | succ k =>
          refine encode_record fun s hs => ih ?_ ?_
          · exact Nat.le_of_lt_succ (Nat.lt_of_lt_of_le (height_lt hs) hn)
          · exact Nat.le_of_lt_succ (Nat.lt_of_lt_of_le (height_lt hs) hk)

/-- **The value of a message** nests at least as deep as the message. -/
theorem height_le_depth (h : m.height ≤ n) : m.height ≤ ((codecOfDepth n).encode m).depth + 1 := by
  induction n generalizing m with
  | zero =>
      rw [height_eq m] at h
      cases h
  | succ n ih =>
      rw [height_eq m]
      refine Nat.succ_le_succ (heights_le fun s hs => ?_)
      have low : s.message.height ≤ n := Nat.le_of_lt_succ (Nat.lt_of_lt_of_le (height_lt hs) h)
      -- the message in its record, that record in the list, and the list in the record of the outer message
      have message : ("message", (codecOfDepth n).encode s.message) ∈
          (SubMessage.record (codecOfDepth n)).members s := by
        simp [Record.members, SubMessage.record, field]
      have record : (SubMessage.record (codecOfDepth n)).codec.encode s ∈
          m.messages.map (SubMessage.record (codecOfDepth n)).codec.encode := List.mem_map_of_mem hs
      have list : ("messages", (Codec.list (SubMessage.record (codecOfDepth n)).codec).encode m.messages) ∈
          (Message.record (codecOfDepth n)).members m := by
        simp [Record.members, Message.record, field]
      have inner := (subMessage_orderly (codecOfDepth n)).depth_lt message
      have middle := depth_lt_arr record
      have outer := (orderly (codecOfDepth n)).depth_lt list
      calc s.message.height
          ≤ ((codecOfDepth n).encode s.message).depth + 1 := ih low
        _ ≤ ((SubMessage.record (codecOfDepth n)).codec.encode s).depth := inner
        _ ≤ ((Message.record (codecOfDepth n)).codec.encode m).depth := Nat.le_of_lt (Nat.lt_trans middle outer)

/-- **A message comes back**, with all that it carries. -/
theorem restores (h : m.Fits) : codec.Restores m := by
  -- it is written by the codec of its own height and read by the one that the nesting of the value asks for
  have deep : m.height ≤ (codec.encode m).depth + 1 := height_le_depth (Nat.le_refl m.height)
  have same : codec.encode m = (codecOfDepth ((codec.encode m).depth + 1)).encode m :=
    encode_of_le (Nat.le_refl m.height) deep
  show (codecOfDepth ((codec.encode m).depth + 1)).decode (codec.encode m) = .ok m
  rw [congrArg (codecOfDepth ((codec.encode m).depth + 1)).decode same]
  exact restores_of_le deep h

end Message

/-! ## Everything that is written -/

/-- **Everything comes back from what is written for it**: what the service exchanges, entries of the sidebar, and
    messages with all that they carry, to any depth. The conditions are the ranges of the numbers and, for the times
    of messages, that they can be shown, as everything can that a stamp stands for. An event about a post also comes
    back from a frame that holds it, whichever characters are escaped in the frame. -/
theorem everything_restored :
    (∀ c : Wire.Conversation, c.unreadCount < UInt64.size → Wire.Conversation.codec.Restores c) ∧
    (∀ p : Wire.Post, Wire.Post.codec.Restores p) ∧
    (∀ u : Wire.User, Wire.User.codec.Restores u) ∧
    (∀ e : Wire.MessageEvent, Wire.MessageEvent.codec.Restores e) ∧
    (∀ n : Wire.ErrorNotice, Int64.minValue.toInt ≤ n.code ∧ n.code ≤ Int64.maxValue.toInt →
      Wire.ErrorNotice.codec.Restores n) ∧
    (∀ e : Channel.Entry, Channel.Entry.codec.Restores e) ∧
    (∀ m : Message, m.Fits → Message.codec.Restores m) ∧
    (∀ stamp, (Stamp.instant stamp).IsWhole) ∧
    ∀ plain (e : Wire.MessageEvent), Wire.Event.ofFrame (e.frame plain) = .ok (.message e) := by
  refine ⟨?_, Wire.Post.restores, Wire.User.restores, Wire.MessageEvent.restores, ?_, Channel.Entry.restores, ?_,
    Stamp.isWhole_instant, ?_⟩
  · intro c h
    exact Wire.Conversation.restores h
  · intro n h
    exact Wire.ErrorNotice.restores h
  · intro m h
    exact Message.restores h
  · intro plain e
    exact Wire.MessageEvent.ofFrame_frame plain e

namespace Message

/-- The first second that can be shown, with a file of the last one and a reply that carries an attachment. -/
def letter : Message :=
  ⟨"1", ⟨-8334601228800, 0⟩, "alice", "question", "x1", [
    ⟨.file "F1", ⟨"", ⟨8210266876799, 0⟩, "", "plan", "", []⟩⟩,
    ⟨.reply "2", ⟨"2", .epoch, "bob", "answer", "", [⟨.attachment 7, ⟨"", .epoch, "", "note", "", []⟩⟩]⟩⟩]⟩

theorem fits_letter : letter.Fits := by
  have flat (id content : String) (time : Calendar.Instant) (h : time.IsWhole) :
      (⟨id, time, "", content, "", []⟩ : Message).Fits :=
    .intro h (fun _ hs => nomatch hs) (fun _ hs => nomatch hs)
  refine .intro ⟨rfl, rfl⟩ (by simp [letter, SubKey.Fits]) ?_
  intro s hs
  rcases List.mem_cons.mp hs with rfl | hs
  · exact flat "" "plan" _ ⟨rfl, rfl⟩
  · rw [List.mem_singleton.mp hs]
    refine .intro ⟨rfl, rfl⟩ (by simp [SubKey.Fits]; decide) ?_
    intro s hs
    rw [List.mem_singleton.mp hs]
    exact flat "" "note" _ ⟨rfl, rfl⟩

theorem letter_restored :
    letter.Fits ∧ codec.Restores letter ∧
    Wire.Event.ofFrame (Wire.MessageEvent.frame (fun _ => true) { channel := "C1", replacement := some {} }) =
      .ok (.message { channel := "C1", replacement := some {} }) := by
  obtain ⟨_, _, _, _, _, _, messages, _, frames⟩ := everything_restored
  exact ⟨fits_letter, messages letter fits_letter, frames _ _⟩

end Message

end TeamChat
