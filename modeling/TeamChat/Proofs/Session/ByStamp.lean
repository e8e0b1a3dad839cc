import Mathlib.Data.String.Basic
import TeamChat.Proofs.Session.Messages
import TeamChat.Workspace

/-!
# `Session.messageById`: a message by its timestamp

A message is asked for by the history of its channel up to its timestamp, of which only the newest post is wanted. If
the history holds a post of the timestamp, this is the one. If it does not, because the message was removed, stands in
a thread, or is of another channel, it is the newest post before that, which nobody asked for: it is taken for the
message all the same (`older_message_found`). None is found only if all posts are newer.

## Contents
- `Session.HoldsHistory`, `Workspace.holdsHistory`: services that hold the history of a channel.
- `Session.newestUpTo?`, `newestUpTo?_of_mem`: the newest post up to a timestamp.
- `value_messageById`: what is found is the message of that post.
- `found_iff_mem`, `not_found_iff`: when the message asked for is found, and when nothing is.
- `older_message_found`, `found_by_stamp`: the message of a timestamp, and an older one.
-/

namespace TeamChat

open Wire (Post)

namespace Session

variable {τ : Type} [LinearOrder τ] {time : String → τ} {r : Remote} {channel stamp : String} {posts : List Post}
  {p : Post}

/-! ## Services that hold a history -/

/-- **A service holds the history of a channel**: no two posts at one time, the newest first. Asked for what it holds
    up to a timestamp (all, if none is named), it answers with the newest posts that are not newer, as many as are
    wanted. Timestamps are compared by the times that they stand for. -/
structure HoldsHistory (time : String → τ) (r : Remote) (channel : String) (posts : List Post) : Prop where
  newest_first : posts.Pairwise fun p q => time q.stamp < time p.stamp
  answers : ∀ before (q : Remote.HistoryQuery), q.channel = channel → q.inclusive = true → q.oldest = "" →
    q.cursor = "" → ∃ next, r.answer before (.history q) =
      .ok ⟨(posts.filter fun p => q.latest = "" ∨ time p.stamp ≤ time q.latest).take q.limit, next⟩

/-- The newest post up to a timestamp. -/
def newestUpTo? (time : String → τ) (posts : List Post) (stamp : String) : Option Post :=
  posts.find? fun p => stamp = "" ∨ time p.stamp ≤ time stamp

/-- If a post has the timestamp, it is that one. -/
theorem newestUpTo?_of_mem (h : posts.Pairwise fun p q => time q.stamp < time p.stamp) (hp : p ∈ posts)
    (hs : p.stamp ≠ "") : newestUpTo? time posts p.stamp = some p := by
  unfold newestUpTo?
  induction posts with
  | nil => exact absurd hp List.not_mem_nil
  | cons q rest ih =>
      rw [List.pairwise_cons] at h
      rcases List.mem_cons.mp hp with rfl | hp
      · exact List.find?_cons_of_pos (by simp)
      · have hnewer : ¬ time q.stamp ≤ time p.stamp := not_le.mpr (h.1 p hp)
        rw [List.find?_cons_of_neg (by simp [hs, hnewer])]
        exact ih h.2 hp

theorem newestUpTo?_eq_none_iff (hs : stamp ≠ "") :
    newestUpTo? time posts stamp = none ↔ ∀ p ∈ posts, time stamp < time p.stamp := by
  unfold newestUpTo?
  rw [List.find?_eq_none]
  simp [hs]

theorem stamp_of_newestUpTo? (h : newestUpTo? time posts stamp = some p) :
    p ∈ posts ∧ (stamp ≠ "" → time p.stamp ≤ time stamp) := by
  have hfound := List.find?_some h
  rw [decide_eq_true_iff] at hfound
  exact ⟨List.mem_of_find?_eq_some h, fun hs => hfound.resolve_left hs⟩

/-- **What is found by a timestamp** is the message of the newest post up to it, if there is one. -/
theorem value_messageById (h : HoldsHistory time r channel posts) (emoji : Bool) (stamp : String) (w : World) :
    (newestUpTo? time posts stamp = none → value (messageById emoji channel stamp) r w = .ok none) ∧
      ∀ p, newestUpTo? time posts stamp = some p →
        ∃ m, value (messageById emoji channel stamp) r w = .ok (some m) ∧ IsBuilt emoji channel r p m := by
  obtain ⟨next, ha⟩ := h.answers (w.trace ++ [.acquire])
    { channel := channel, limit := 1, latest := stamp, inclusive := true } rfl rfl rfl rfl
  unfold messageById newestUpTo?
  simp only []
  rw [value_bind, value_call, ha, ← List.head?_filter]
  simp only []
  cases posts.filter fun p => stamp = "" ∨ time p.stamp ≤ time stamp with
  | nil => exact ⟨fun _ => rfl, fun p hp => absurd hp (by simp)⟩
  | cons q rest =>
      refine ⟨fun hn => absurd hn (by simp), fun p hp => ?_⟩
      obtain rfl : q = p := Option.some.inj hp
      exact ⟨_, rfl, _, rfl⟩

theorem id_of_isBuilt {emoji : Bool} {m : Message} (h : IsBuilt emoji channel r p m) : m.id = p.stamp := by
  obtain ⟨w, rfl⟩ := h
  exact id_buildMessage emoji channel p r w

/-- The message of a timestamp is found exactly if there is a post of the timestamp. -/
theorem found_iff_mem (h : HoldsHistory time r channel posts) (emoji : Bool) (hs : stamp ≠ "") (w : World) :
    (∃ m, value (messageById emoji channel stamp) r w = .ok (some m) ∧ m.id = stamp) ↔
      ∃ p ∈ posts, p.stamp = stamp := by
  obtain ⟨hnone, hsome⟩ := value_messageById h emoji stamp w
  constructor
  · rintro ⟨m, hv, hid⟩
    cases hp : newestUpTo? time posts stamp with
    | none => exact absurd (hv.symm.trans (hnone hp)) (by simp)
    | some p =>
        obtain ⟨m', hv', hbuilt⟩ := hsome p hp
        obtain rfl : m = m' := Option.some.inj (Except.ok.inj (hv.symm.trans hv'))
        exact ⟨p, (stamp_of_newestUpTo? hp).1, (id_of_isBuilt hbuilt).symm.trans hid⟩
  · rintro ⟨p, hp, rfl⟩
    obtain ⟨m, hv, hbuilt⟩ := hsome p (newestUpTo?_of_mem h.newest_first hp hs)
    exact ⟨m, hv, id_of_isBuilt hbuilt⟩

/-- Nothing is found exactly if all posts are newer. -/
theorem not_found_iff (h : HoldsHistory time r channel posts) (emoji : Bool) (hs : stamp ≠ "") (w : World) :
    value (messageById emoji channel stamp) r w = .ok none ↔ ∀ p ∈ posts, time stamp < time p.stamp := by
  obtain ⟨hnone, hsome⟩ := value_messageById h emoji stamp w
  rw [← newestUpTo?_eq_none_iff hs]
  refine ⟨fun hv => ?_, hnone⟩
  rw [Option.eq_none_iff_forall_ne_some]
  intro p hp
  obtain ⟨m, hv', _⟩ := hsome p hp
  exact absurd (hv.symm.trans hv') (by simp)

end Session

namespace Workspace

/-- A workspace holds the histories of its channels, newest first by the text of the timestamps, unless it is told to
    refuse them. -/
theorem holdsHistory {ws : Workspace} {channel : String} {posts : List Post}
    (hserved : ws.refusals.get? "conversations.history" = none) (hposts : ws.histories.get? channel = some posts)
    (hsorted : posts.Pairwise fun p q => q.stamp < p.stamp) : Session.HoldsHistory id ws.remote channel posts where
  newest_first := hsorted
  answers before q hq _ _ _ := by
    refine ⟨"", ?_⟩
    show ws.answer (.history q) = _
    unfold answer
    rw [show (Remote.Call.history q).method = "conversations.history" from rfl, hserved]
    show Except.ok (Remote.Page.mk (window ((ws.histories.get? q.channel).getD []) q.latest q.limit) "") = _
    rw [hq, hposts, window]
    congr 4
    funext p
    rw [Bool.eq_iff_iff]
    simp

end Workspace

namespace Session

variable {τ : Type} [LinearOrder τ] {time : String → τ} {r : Remote} {channel : String} {posts : List Post}

/-! ## The message of a timestamp, and an older one -/

/-- A post at a time. -/
def postAt (stamp : String) : Post := { text := "hello", stamp := stamp }

/-- A workspace with two posts in a channel. -/
def twoPosts : Workspace where
  histories := .ofList [("C1", [postAt "103.000000", postAt "101.000000"])]

theorem holdsHistory_twoPosts :
    HoldsHistory id twoPosts.remote "C1" [postAt "103.000000", postAt "101.000000"] :=
  Workspace.holdsHistory rfl (by decide) (by decide)

/-- **An older message is found** where there is none of the timestamp: that of the newest post before it. -/
theorem older_message_found :
    ¬ ∀ (r : Remote) (channel : String) (posts : List Post), HoldsHistory id r channel posts →
      ∀ (emoji : Bool) (stamp : String) (w : World), stamp ≠ "" →
        ((∃ p ∈ posts, p.stamp = stamp) →
          ∃ m, value (messageById emoji channel stamp) r w = .ok (some m) ∧ m.id = stamp) ∧
        ((∀ p ∈ posts, p.stamp ≠ stamp) → value (messageById emoji channel stamp) r w = .ok none) := by
  intro h
  have hstamp : "102.000000" ≠ "" := by decide
  have hnone := (h _ _ _ holdsHistory_twoPosts true "102.000000" outset hstamp).2 (by decide)
  have hnewer := (not_found_iff holdsHistory_twoPosts true hstamp outset).mp hnone (postAt "101.000000") (by simp)
  exact absurd hnewer (by decide)

/-- **What is found by a timestamp**, with a service that holds the history of the channel: nothing if all posts are
    newer, and otherwise the message of the newest post that is not. So if there is a post of the timestamp its message
    is found; and if there is none, nothing is found only where all posts are newer, and else an older message. -/
theorem found_by_stamp (h : HoldsHistory time r channel posts) (emoji : Bool) (stamp : String) (w : World) :
    let answer := value (messageById emoji channel stamp) r w
    (newestUpTo? time posts stamp = none → answer = .ok none) ∧
    (∀ p, newestUpTo? time posts stamp = some p →
      ∃ m, answer = .ok (some m) ∧ IsBuilt emoji channel r p m ∧ m.id = p.stamp) ∧
    (stamp ≠ "" →
      ((∃ m, answer = .ok (some m) ∧ m.id = stamp) ↔ ∃ p ∈ posts, p.stamp = stamp) ∧
      (answer = .ok none ↔ ∀ p ∈ posts, time stamp < time p.stamp)) := by
  intro answer
  obtain ⟨hnone, hsome⟩ := value_messageById h emoji stamp w
  refine ⟨hnone, fun p hp => ?_, fun hs => ⟨found_iff_mem h emoji hs w, not_found_iff h emoji hs w⟩⟩
  obtain ⟨m, hv, hbuilt⟩ := hsome p hp
  exact ⟨m, hv, hbuilt, id_of_isBuilt hbuilt⟩

/-- Of two posts one is found by its timestamp, and the older one by a timestamp in between; before both of them there
    is nothing to find. -/
theorem found_by_stamp_between :
    let found (stamp : String) := value (messageById true "C1" stamp) twoPosts.remote outset
    HoldsHistory id twoPosts.remote "C1" [postAt "103.000000", postAt "101.000000"] ∧
    (∃ m, found "103.000000" = .ok (some m) ∧ m.id = "103.000000") ∧
    (∃ m, found "102.000000" = .ok (some m) ∧ m.id = "101.000000") ∧
    found "100.000000" = .ok none := by
  intro found
  have h := holdsHistory_twoPosts
  refine ⟨h, ?_, ?_, ?_⟩
  · exact ((found_by_stamp h true "103.000000" outset).2.2 (by decide)).1.mpr ⟨_, List.mem_cons_self, rfl⟩
  · obtain ⟨m, hv, _, hid⟩ := (found_by_stamp h true "102.000000" outset).2.1 (postAt "101.000000") (by decide)
    exact ⟨m, hv, hid⟩
  · exact (found_by_stamp h true "100.000000" outset).1 (by decide)

end Session

end TeamChat
