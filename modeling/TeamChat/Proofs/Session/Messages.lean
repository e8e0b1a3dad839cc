import Mathlib.Data.List.Forall2
import TeamChat.Proofs.Session.Names

/-!
# `Session.buildMessage`: what a message is built of

Names, bodies and replies are found out on the way, and any of them may fail; none of that touches the
timestamp of a message, the alias of its thread, or the order of what it carries. Several messages are built
one after the other, one for each post (`forall₂_buildMessages`).

## Contents
- `exists_of_mem_left`, `exists_of_mem_right`: what stands beside a member of a list.
- `Session.repliesBelow`, `value_buildMessage`, `parts_buildMessage`: what a message carries, and for which replies.
- `id_buildMessage`, `thread_buildMessage`, `threads_buildMessage`: timestamp, alias, and table behind it.
- `Session.IsBuilt`, `forall₂_buildMessages`: messages beside the posts for which they are built.
-/

namespace TeamChat.Session

open Thread (Table aliasOf)

/-! ## Lists beside each other -/

section Beside

variable {α β : Type} {R : α → β → Prop} {as : List α} {bs : List β}

theorem exists_of_mem_left (h : List.Forall₂ R as bs) {a : α} (ha : a ∈ as) : ∃ b ∈ bs, R a b := by
  induction h with
  | nil => exact absurd ha List.not_mem_nil
  | @cons a' b _ _ hab _ ih =>
      rcases List.mem_cons.mp ha with rfl | ha
      · exact ⟨b, List.mem_cons_self, hab⟩
      · obtain ⟨b', hb', hr⟩ := ih ha
        exact ⟨b', List.mem_cons_of_mem b hb', hr⟩

theorem exists_of_mem_right (h : List.Forall₂ R as bs) {b : β} (hb : b ∈ bs) : ∃ a ∈ as, R a b :=
  exists_of_mem_left h.flip hb

end Beside

section Built

variable (emoji : Bool) (channel : String) (p : Wire.Post) (r : Remote) (w : World)

/-! ## What a message carries -/

/-- What a message without its replies carries does not depend on names. -/
theorem messages_leaf :
    (value (leaf emoji p) r w).messages =
      attachmentParts (Stamp.instant p.stamp) p.attachments ++ fileParts (Stamp.instant p.stamp) p.files :=
  rfl

/-- The replies in a thread that are shown, as the service answers in a world. -/
def shownReplies (channel stamp : String) (r : Remote) (w : World) : List Wire.Post :=
  match value (fetchReplies channel stamp) r w with
  | .error _ => []
  | .ok posts => posts.filter (isReplyTo stamp)

/-- The replies that are shown below a post: they are asked for once its own message is built and its alias is
    in the table. -/
def repliesBelow (emoji : Bool) (channel : String) (p : Wire.Post) (r : Remote) (w : World) : List Wire.Post :=
  if p.startsThread then
    shownReplies channel p.stamp r (after (registerThread p.stamp) r (after (leaf emoji p) r w))
  else []

/-- A part holds the message of a reply, under the reply's timestamp. -/
def IsReply (emoji : Bool) (r : Remote) (q : Wire.Post) (part : SubMessage Message) : Prop :=
  ∃ w, part = ⟨.reply q.stamp, value (leaf emoji q) r w⟩

theorem forall₂_replyParts (posts : List Wire.Post) :
    List.Forall₂ (IsReply emoji r) posts (value (replyParts emoji posts) r w) := by
  induction posts generalizing w with
  | nil => exact .nil
  | cons q rest ih => exact .cons ⟨w, rfl⟩ (ih (after (leaf emoji q) r w))

theorem forall₂_threadParts (stamp : String) :
    List.Forall₂ (IsReply emoji r) (shownReplies channel stamp r w)
      (value (threadParts emoji channel stamp) r w) := by
  unfold threadParts shownReplies
  rw [value_bind]
  cases value (fetchReplies channel stamp) r w with
  | error e => exact .nil
  | ok posts => exact forall₂_replyParts emoji r _ _

/-- **Building a message** adds two things to the message without replies: the alias of the thread, and a part
    for each reply that is shown below its post. -/
theorem value_buildMessage :
    ∃ replies, value (buildMessage emoji channel p) r w =
        { value (leaf emoji p) r w with
          thread := if p.startsThread then aliasOf p.stamp else ""
          messages := (value (leaf emoji p) r w).messages ++ replies } ∧
      List.Forall₂ (IsReply emoji r) (repliesBelow emoji channel p r w) replies := by
  unfold buildMessage repliesBelow
  rw [value_bind]
  split
  · exact ⟨_, rfl, forall₂_threadParts emoji channel r _ p.stamp⟩
  · refine ⟨[], ?_, .nil⟩
    rw [value_pure, List.append_nil]
    rfl

/-- **What a message carries**: the lines of its attachments, its files, and a part for each reply that is
    shown below its post. -/
theorem parts_buildMessage :
    ∃ replies, (value (buildMessage emoji channel p) r w).messages =
        attachmentParts (Stamp.instant p.stamp) p.attachments ++ fileParts (Stamp.instant p.stamp) p.files ++
          replies ∧
      List.Forall₂ (IsReply emoji r) (repliesBelow emoji channel p r w) replies := by
  obtain ⟨replies, hm, hr⟩ := value_buildMessage emoji channel p r w
  exact ⟨replies, congrArg (·.messages) hm, hr⟩

/-! ## Timestamp and alias -/

theorem id_buildMessage : (value (buildMessage emoji channel p) r w).id = p.stamp := by
  obtain ⟨_, hm, _⟩ := value_buildMessage emoji channel p r w
  rw [hm]
  rfl

theorem thread_buildMessage :
    (value (buildMessage emoji channel p) r w).thread =
      if p.startsThread then aliasOf p.stamp else "" := by
  obtain ⟨_, hm, _⟩ := value_buildMessage emoji channel p r w
  rw [hm]

theorem threads_buildMessage :
    (after (buildMessage emoji channel p) r w).threads =
      if p.startsThread then (Table.register w.threads p.stamp).2 else w.threads := by
  have hl := stepwise_threads.leaf emoji p r w
  unfold buildMessage
  rw [after_bind]
  split
  · -- the replies come after the alias is in the table, and leave it alone
    rw [after_bind, after_bind]
    refine (stepwise_threads.threadParts emoji channel p.stamp r _).trans ?_
    show (Table.register (after (leaf emoji p) r w).threads p.stamp).2 = _
    rw [hl]
  · exact hl

/-- A thread hangs from the message exactly if one hangs from the post: an alias is never empty. -/
theorem startsThread_buildMessage :
    (value (buildMessage emoji channel p) r w).startsThread = p.startsThread := by
  unfold Message.startsThread
  rw [thread_buildMessage]
  by_cases hp : p.startsThread = true
  · rw [if_pos hp, hp]
    simp [aliasOf, Thread.word_ne_empty]
  · rw [if_neg hp]
    simp [hp]

end Built

/-! ## Several messages -/

/-- A message is the one that is built for a post in some world. -/
def IsBuilt (emoji : Bool) (channel : String) (r : Remote) (p : Wire.Post) (m : Message) : Prop :=
  ∃ w, m = value (buildMessage emoji channel p) r w

theorem forall₂_buildMessages (emoji : Bool) (channel : String) (posts : List Wire.Post) (r : Remote) (w : World) :
    List.Forall₂ (IsBuilt emoji channel r) posts (value (buildMessages emoji channel posts) r w) := by
  induction posts generalizing w with
  | nil => exact .nil
  | cons p rest ih => exact .cons ⟨w, rfl⟩ (ih (after (buildMessage emoji channel p) r w))

end TeamChat.Session
