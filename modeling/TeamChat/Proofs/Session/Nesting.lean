import TeamChat.Proofs.Session.History

/-!
# `Message`: how deep messages are carried

A message carries the lines of its attachments, its files, and the replies in its thread. Lines and files
carry nothing, and no thread hangs from anything that is carried. But a reply is built like any other message
without replies, so it carries the lines and files of its own post: messages are not always flat
(`reply_carries_file`). They are flat exactly if the replies below them come with neither
(`nesting_produced`), and nothing is carried deeper than two levels.

## Contents
- `Session.Produced`, `Produced.built`: the messages that sessions show are built for posts.
- `Message.Flat`, `Wire.Post.Bare`, `flat_buildMessage_iff`: when a message is flat.
- `reply_carries_file`, `nesting_produced`: how deep messages are carried.
-/

namespace TeamChat

/-- Nothing that a message carries carries anything itself, and no thread hangs from it. -/
def Message.Flat (m : Message) : Prop :=
  ∀ part ∈ m.messages, part.message.messages = [] ∧ part.message.thread = ""

/-- A post comes with neither lines of attachments nor files. -/
def Wire.Post.Bare (p : Post) : Prop :=
  attachmentLines p.attachments = [] ∧ p.files = []

namespace Session

variable {r : Remote} {m : Message}

/-! ## The messages that sessions show -/

/-- A message that a session shows: in a history, under its timestamp, or for a live event. -/
inductive Produced (r : Remote) : Message → Prop
  | history {emoji channel count days w h m} :
      value (history emoji channel count days) r w = .ok h → m ∈ h.messages → Produced r m
  | messageById {emoji channel stamp w m} :
      value (messageById emoji channel stamp) r w = .ok (some m) → Produced r m
  | ofEvent {emoji channel e w m} : value (ofEvent emoji channel e) r w = .ok m → Produced r m

section Operations

variable {emoji : Bool} {channel : String} {w : World}

theorem built_history {count days : Nat} {h : History}
    (hv : value (history emoji channel count days) r w = .ok h) (hm : m ∈ h.messages) :
    ∃ p, IsBuilt emoji channel r p m := by
  cases ha : r.answer (w.trace ++ [.acquire]) (.history (historyQuery channel count days w)) with
  | error e => exact absurd (hv.symm.trans (history_of_error ha).1) (by simp)
  | ok page =>
      have he := Except.ok.inj (hv.symm.trans (history_of_ok ha))
      rw [he, List.mem_reverse] at hm
      obtain ⟨p, _, hp⟩ := exists_of_mem_right (forall₂_buildMessages emoji channel page.items r _) hm
      exact ⟨p, hp⟩

theorem built_messageById {stamp : String} (hv : value (messageById emoji channel stamp) r w = .ok (some m)) :
    ∃ p, IsBuilt emoji channel r p m := by
  unfold messageById at hv
  rw [value_bind] at hv
  split at hv
  · cases hv
  · split at hv
    · cases hv
    · next p _ _ =>
        rw [value_bind, value_pure] at hv
        cases hv
        exact ⟨p, _, rfl⟩

theorem built_ofEvent {e : Wire.MessageEvent} (hv : value (ofEvent emoji channel e) r w = .ok m) :
    ∃ p, IsBuilt emoji channel r p m := by
  unfold ofEvent at hv
  simp only [] at hv
  split at hv
  · split at hv
    · cases hv
    · rw [value_bind, value_pure] at hv
      cases hv
      exact ⟨_, _, rfl⟩
  · split at hv
    · cases hv
    · rw [value_bind, value_pure] at hv
      cases hv
      exact ⟨_, _, rfl⟩

end Operations

theorem Produced.built (h : Produced r m) : ∃ emoji channel p, IsBuilt emoji channel r p m := by
  cases h with
  | @history emoji channel _ _ _ _ _ hv hm => exact ⟨emoji, channel, built_history hv hm⟩
  | @messageById emoji channel _ _ _ hv => exact ⟨emoji, channel, built_messageById hv⟩
  | @ofEvent emoji channel _ _ _ hv => exact ⟨emoji, channel, built_ofEvent hv⟩

/-! ## When a message is flat -/

/-- Lines and files carry nothing. -/
theorem contentOnly_of_mem {time : Calendar.Instant} {attachments : List Wire.Attachment}
    {files : List Wire.File} {part : SubMessage Message}
    (h : part ∈ attachmentParts time attachments ++ fileParts time files) :
    part.message.messages = [] ∧ part.message.thread = "" := by
  rcases List.mem_append.mp h with ha | hf
  · obtain ⟨i, _, rfl⟩ := List.mem_mapIdx.mp ha
    exact ⟨rfl, rfl⟩
  · obtain ⟨f, _, rfl⟩ := List.mem_map.mp hf
    exact ⟨rfl, rfl⟩

theorem flat_leaf {emoji : Bool} {p : Wire.Post} {w : World} : (value (leaf emoji p) r w).Flat :=
  fun _ h => contentOnly_of_mem h

/-- A reply carries nothing exactly if its post comes with nothing. -/
theorem messages_leaf_eq_nil_iff {emoji : Bool} {p : Wire.Post} {w : World} :
    (value (leaf emoji p) r w).messages = [] ↔ p.Bare := by
  rw [messages_leaf, List.append_eq_nil_iff, attachmentParts, fileParts, List.mapIdx_eq_nil_iff,
    List.map_eq_nil_iff]
  rfl

/-- **When a message is flat**: exactly if the replies below it come with neither lines nor files. -/
theorem flat_buildMessage_iff (emoji : Bool) (channel : String) (p : Wire.Post) (r : Remote) (w : World) :
    (value (buildMessage emoji channel p) r w).Flat ↔ ∀ q ∈ repliesBelow emoji channel p r w, q.Bare := by
  obtain ⟨replies, hm, hreplies⟩ := parts_buildMessage emoji channel p r w
  unfold Message.Flat
  rw [hm]
  constructor
  · intro hflat q hq
    obtain ⟨part, hpart, w', rfl⟩ := exists_of_mem_left hreplies hq
    exact messages_leaf_eq_nil_iff.mp (hflat _ (List.mem_append_right _ hpart)).1
  · intro hbare part hpart
    rcases List.mem_append.mp hpart with hown | hreply
    · exact contentOnly_of_mem hown
    · obtain ⟨q, hq, w', rfl⟩ := exists_of_mem_right hreplies hreply
      exact ⟨messages_leaf_eq_nil_iff.mpr (hbare q hq), rfl⟩

/-- No thread hangs from what a message carries, and what that carries in turn carries nothing; only replies
    carry anything. -/
theorem parts_flat (emoji : Bool) (channel : String) (p : Wire.Post) (r : Remote) (w : World) :
    ∀ part ∈ (value (buildMessage emoji channel p) r w).messages,
      part.message.thread = "" ∧ part.message.Flat ∧
        (part.message.messages ≠ [] → ∃ stamp, part.key = .reply stamp) := by
  intro part hpart
  obtain ⟨replies, hm, hreplies⟩ := parts_buildMessage emoji channel p r w
  rw [hm] at hpart
  rcases List.mem_append.mp hpart with hown | hreply
  · obtain ⟨hnil, hthread⟩ := contentOnly_of_mem hown
    refine ⟨hthread, fun inner hinner => ?_, fun hne => absurd hnil hne⟩
    rw [hnil] at hinner
    exact absurd hinner List.not_mem_nil
  · obtain ⟨q, _, w', rfl⟩ := exists_of_mem_right hreplies hreply
    exact ⟨rfl, flat_leaf, fun _ => ⟨q.stamp, rfl⟩⟩

/-! ## How deep messages are carried -/

/-- A post from which a thread hangs. -/
def question : Wire.Post := { stamp := "100.000000", threadStamp := "100.000000" }

/-- A reply in that thread, which comes with a file. -/
def answerWithFile : Wire.Post :=
  { stamp := "100.000100", threadStamp := "100.000000", files := [{ id := "F1" }] }

/-- A service that knows of that reply and of nothing else. -/
def oneReply : Remote where
  answer _ c :=
    match c with
    | .replies _ => .ok { items := [answerWithFile] }
    | _ => .error (.http .builder)
  openStream _ := .error (.http .builder)
  horizon := 1

/-- The message of a live event about the question. -/
def questionMessage : Message :=
  value (buildMessage true "C1" question) oneReply outset

theorem produced_questionMessage : Produced oneReply questionMessage := by
  have hv : value (ofEvent true "C1" { channel := "C1", post := question }) oneReply outset =
      .ok questionMessage := rfl
  exact .ofEvent hv

theorem repliesBelow_question (w : World) : repliesBelow true "C1" question oneReply w = [answerWithFile] := by
  unfold repliesBelow
  rw [if_pos (by decide)]
  rfl

theorem not_bare_answerWithFile : ¬ answerWithFile.Bare :=
  fun h => absurd h.2 (List.cons_ne_nil _ _)

/-- **A reply carries the file of its post**, so that messages are not always flat. -/
theorem reply_carries_file : ¬ ∀ r m, Produced r m → m.Flat := by
  intro h
  have hflat := (flat_buildMessage_iff true "C1" question oneReply outset).mp
    (h oneReply questionMessage produced_questionMessage)
  rw [repliesBelow_question] at hflat
  exact not_bare_answerWithFile (hflat answerWithFile List.mem_cons_self)

/-- **How deep messages are carried.** From nothing that a message carries hangs a thread. Only replies carry
    anything in turn, and what they carry carries nothing. A message is flat exactly if the replies that are
    shown below its post come with neither lines nor files. -/
theorem nesting_produced (h : Produced r m) :
    (∀ part ∈ m.messages, part.message.thread = "" ∧ part.message.Flat ∧
      (part.message.messages ≠ [] → ∃ stamp, part.key = .reply stamp)) ∧
    ∃ emoji channel p w, m = value (buildMessage emoji channel p) r w ∧
      (m.Flat ↔ ∀ q ∈ repliesBelow emoji channel p r w, q.Bare) := by
  obtain ⟨emoji, channel, p, w, rfl⟩ := h.built
  exact ⟨parts_flat emoji channel p r w, emoji, channel, p, w, rfl, flat_buildMessage_iff emoji channel p r w⟩

/-- The question carries its answer, that carries a file, and the file carries nothing. -/
theorem nesting_of_question :
    Produced oneReply questionMessage ∧
    questionMessage.messages.map (·.message.messages.length) = [1] ∧
    ∀ part ∈ questionMessage.messages, part.message.thread = "" ∧ part.message.Flat := by
  refine ⟨produced_questionMessage, rfl, fun part hpart => ?_⟩
  obtain ⟨hthread, hflat, _⟩ := (nesting_produced produced_questionMessage).1 part hpart
  exact ⟨hthread, hflat⟩

end Session

end TeamChat
