import TeamChat.Proofs.Session.Messages
import TeamChat.Proofs.Session.Pages

/-!
# `Session.buildMessage`: the layout of a message

A message carries the lines of its attachments under their numbers, then its files under their ids, then, if
a thread hangs from it and all parts of that are answered, the replies under their timestamps, in the order
in which they were answered. If a part of the thread fails there are no replies, and all else is as it would
be (`layout_buildMessage`): whatever comes before the replies is asked for before them, of services that may
differ in what they answer about replies (`agree_leaf`).

## Contents
- `Message.sub?_attachment`, `Message.replies_eq`: what is found in a layout.
- `Session.Agree`, `agree_leaf`: computations that two services tell the same.
- `Remote.Script.repliesTo`, `PlaysThread`, `repliesBelow_of_plays`: the replies of a script that are shown.
- `layout_buildMessage`: messages.
-/

namespace TeamChat

open Remote (ApiError Call Paged Script)
open Session (attachmentParts contentOnly fileParts)

/-! ## What is found in a layout -/

namespace Message

variable {time : Calendar.Instant} {attachments : List Wire.Attachment} {files : List Wire.File}
  {rest : List (SubMessage Message)} {m : Message}

theorem find?_attachmentParts (i : Nat) :
    (attachmentParts time attachments).find? (fun s => decide (s.key = .attachment i)) =
      (Wire.attachmentLines attachments)[i]?.map fun line =>
        ⟨.attachment i, contentOnly (String.ofList (Numeral.decimal i)) time line⟩ := by
  cases hl : (Wire.attachmentLines attachments)[i]? with
  | none =>
      rw [Option.map_none, List.find?_eq_none]
      intro part hpart
      obtain ⟨j, hj, rfl⟩ := List.mem_mapIdx.mp hpart
      have outside := List.getElem?_eq_none_iff.mp hl
      rw [decide_eq_true_eq, SubKey.attachment.injEq]
      omega
  | some line =>
      obtain ⟨hi, rfl⟩ := List.getElem?_eq_some_iff.mp hl
      rw [Option.map_some, List.find?_eq_some_iff_getElem]
      refine ⟨decide_eq_true rfl, i, by simpa [attachmentParts] using hi, by simp [attachmentParts], ?_⟩
      -- a line before has a smaller number
      intro j hj
      have other : SubKey.attachment j ≠ .attachment i := by
        rw [ne_eq, SubKey.attachment.injEq]
        omega
      simpa [attachmentParts] using other

/-- Under the number of a line stands the line, if there are so many. -/
theorem sub?_attachment (hm : m.messages = attachmentParts time attachments ++ rest)
    (hrest : ∀ part ∈ rest, ∀ i, part.key ≠ .attachment i) (i : Nat) :
    m.sub? (.attachment i) =
      (Wire.attachmentLines attachments)[i]?.map fun line =>
        contentOnly (String.ofList (Numeral.decimal i)) time line := by
  have hnone : rest.find? (fun s => decide (s.key = .attachment i)) = none := by
    rw [List.find?_eq_none]
    intro part hpart
    rw [decide_eq_true_eq]
    exact hrest part hpart i
  unfold sub?
  rw [hm, List.find?_append, find?_attachmentParts, hnone, Option.or_none, Option.map_map]
  rfl

/-- The replies in a layout are those behind the lines and the files. -/
theorem replies_eq {replies : List (SubMessage Message)}
    (hm : m.messages = attachmentParts time attachments ++ fileParts time files ++ replies)
    (hreplies : ∀ part ∈ replies, ∃ stamp, part.key = .reply stamp) :
    m.replies = replies.map (·.message) := by
  unfold Message.replies
  rw [hm, List.filterMap_append, List.filterMap_append, List.filterMap_eq_nil_iff.mpr,
    List.filterMap_eq_nil_iff.mpr, List.nil_append, List.nil_append, ← List.filterMap_eq_map]
  · refine List.filterMap_congr fun part hpart => ?_
    obtain ⟨stamp, hkey⟩ := hreplies part hpart
    rw [hkey]
    rfl
  · intro part hpart
    obtain ⟨f, _, rfl⟩ := List.mem_map.mp hpart
    rfl
  · intro part hpart
    obtain ⟨j, _, rfl⟩ := List.mem_mapIdx.mp hpart
    rfl

end Message

namespace Session

/-! ## What two services tell the same -/

section Agreement

variable {α β : Type} {r r' : Remote}

/-- Two services tell a computation the same. -/
def Agree (r r' : Remote) (x : Session α) : Prop :=
  ∀ w, x r w = x r' w

theorem Agree.pure (a : α) : Agree r r' (Pure.pure a : Session α) :=
  fun _ => rfl

theorem Agree.bind {x : Session α} {f : α → Session β} (hx : Agree r r' x) (hf : ∀ a, Agree r r' (f a)) :
    Agree r r' (x >>= f) := by
  intro w
  have hw := hx w
  show f (x r w).1 r (x r w).2 = f (x r' w).1 r' (x r' w).2
  rw [hw]
  exact hf _ _

theorem agree_call {c : Call} (h : ∀ before, r.answer before c = r'.answer before c) : Agree r r' (call c) := by
  intro w
  have hv : value (call c) r w = value (call c) r' w := by rw [value_call, value_call, h]
  exact Prod.ext hv rfl

variable (h : ∀ before user, r.answer before (.userInfo user) = r'.answer before (.userInfo user))

include h

theorem agree_resolve (user : String) : Agree r r' (resolve user) := by
  refine Agree.bind (fun _ => rfl) fun found => ?_
  cases found with
  | some name => exact Agree.pure _
  | none => exact Agree.bind (agree_call fun before => h before user) fun _ _ => rfl

theorem agree_nameOf (user : String) : Agree r r' (nameOf user) :=
  (agree_resolve h user).bind fun _ => Agree.pure _

theorem agree_namesOf (users : List String) : Agree r r' (namesOf users) := by
  induction users with
  | nil => exact Agree.pure _
  | cons user rest ih => exact (agree_nameOf h user).bind fun _ => ih.bind fun _ => Agree.pure _

theorem agree_author (p : Wire.Post) : Agree r r' (author p) := by
  unfold author
  split
  · exact agree_nameOf h p.user
  · split
    · exact Agree.pure _
    · split
      · exact Agree.pure _
      · exact Agree.pure _

/-- A message without replies depends on what is answered about users, and on nothing else. -/
theorem agree_leaf (emoji : Bool) (p : Wire.Post) : Agree r r' (leaf emoji p) :=
  (agree_author h p).bind fun _ => Agree.bind ((agree_namesOf h _).bind fun _ => Agree.pure _) fun _ => Agree.pure _

end Agreement

end Session

/-! ## Replies of a script -/

/-- The posts of a script that are shown as replies to a post from which the thread hangs: all but the post
    itself and other such posts. If a part of the thread fails there are none. -/
def Remote.Script.repliesTo (s : Script Wire.Post) (p : Wire.Post) : List Wire.Post :=
  match s.final with
  | .error _ => []
  | .ok last =>
    (s.parts.flatMap (·.items) ++ last.items).filter fun q => q.stamp ≠ p.stamp && !q.startsThread

namespace Session

open Thread (Table aliasOf)

section Layout

variable (emoji : Bool) (channel : String) (p : Wire.Post) (r : Remote) (w : World)

/-- The service answers by a script when the thread of a post is asked for, which is once its own message is
    built, and is waited for as long as the script is. -/
def PlaysThread (s : Script Wire.Post) : Prop :=
  (Paged.replies channel p.stamp).Plays r (after (leaf emoji p) r w).trace s ∧ s.answers.length ≤ r.horizon

variable {emoji channel p r w} in
/-- What is shown below a post is what a script comes to that is played for its thread. -/
theorem repliesBelow_of_plays {s : Script Wire.Post}
    (hs : p.startsThread = true → PlaysThread emoji channel p r w s) :
    repliesBelow emoji channel p r w = if p.startsThread then s.repliesTo p else [] := by
  unfold repliesBelow
  by_cases hp : p.startsThread = true
  · obtain ⟨hplays, hlong⟩ := hs hp
    -- to remember an alias is not to ask for anything
    have hread := (Paged.read_of_plays (w := after (registerThread p.stamp) r (after (leaf emoji p) r w))
      hplays hlong).1
    rw [if_pos hp, if_pos hp, shownReplies, show value (fetchReplies channel p.stamp) r _ = s.outcome from hread,
      Script.outcome, Script.repliesTo]
    cases s.final <;> rfl
  · rw [if_neg hp, if_neg hp]

/-- What is found in a message that carries replies behind its lines and its files. -/
theorem found_of_parts {replies : List (SubMessage Message)} {posts : List Wire.Post} {m : Message}
    (hm : m.messages = attachmentParts (Stamp.instant p.stamp) p.attachments ++
      fileParts (Stamp.instant p.stamp) p.files ++ replies)
    (hr : List.Forall₂ (IsReply emoji r) posts replies) :
    m.replies = replies.map (·.message) ∧
      ∀ i, m.sub? (.attachment i) = (Wire.attachmentLines p.attachments)[i]?.map fun line =>
        contentOnly (String.ofList (Numeral.decimal i)) (Stamp.instant p.stamp) line := by
  have hkeys : ∀ part ∈ replies, ∃ stamp, part.key = .reply stamp := by
    intro part hpart
    obtain ⟨q, _, w, rfl⟩ := exists_of_mem_right hr hpart
    exact ⟨q.stamp, rfl⟩
  refine ⟨Message.replies_eq hm hkeys, Message.sub?_attachment (hm.trans (List.append_assoc ..)) ?_⟩
  intro part hpart i
  rcases List.mem_append.mp hpart with hfile | hreply
  · obtain ⟨f, _, rfl⟩ := List.mem_map.mp hfile
    exact SubKey.noConfusion
  · obtain ⟨stamp, hkey⟩ := hkeys part hreply
    rw [hkey]
    exact SubKey.noConfusion

/-- **The layout of a message.** It carries the lines of its attachments, each under its number; then its
    files, each under its id; then, if a thread hangs from its post, the replies that the service answers part
    by part, each under its timestamp and in the order of the answers, but neither the post itself nor others
    from which a thread hangs. Under the number of a line stands the line, if there are so many, and the
    replies found are those. If a part of the thread fails there are none, and nothing else is changed by
    that: the message is the one that is built where the thread can be had, without its replies, and the same
    alias is remembered. -/
theorem layout_buildMessage (s : Script Wire.Post)
    (hs : p.startsThread = true → PlaysThread emoji channel p r w s) :
    let m := value (buildMessage emoji channel p) r w
    let time := Stamp.instant p.stamp
    let lines := Wire.attachmentLines p.attachments
    let own : List (SubMessage Message) :=
      (lines.mapIdx fun i line => ⟨.attachment i, contentOnly (String.ofList (Numeral.decimal i)) time line⟩) ++
        p.files.map fun f => ⟨.file f.id, contentOnly f.id time f.line⟩
    (∃ replies, m.messages = own ++ replies ∧
      List.Forall₂ (IsReply emoji r) (if p.startsThread then s.repliesTo p else []) replies ∧
      m.replies = replies.map (·.message)) ∧
    (∀ i, m.sub? (.attachment i) =
      lines[i]?.map fun line => contentOnly (String.ofList (Numeral.decimal i)) time line) ∧
    (after (buildMessage emoji channel p) r w).threads =
      (if p.startsThread then (Table.register w.threads p.stamp).2 else w.threads) ∧
    ∀ (r' : Remote) (s' : Script Wire.Post) (e : ApiError),
      (∀ before user, r.answer before (.userInfo user) = r'.answer before (.userInfo user)) →
      PlaysThread emoji channel p r' w s' → s'.final = .error e →
      value (buildMessage emoji channel p) r' w = { m with messages := own } ∧
        (after (buildMessage emoji channel p) r' w).threads = (after (buildMessage emoji channel p) r w).threads := by
  intro m time lines own
  obtain ⟨replies, hm, hr⟩ := value_buildMessage emoji channel p r w
  rw [repliesBelow_of_plays hs] at hr
  have hparts : m.messages = own ++ replies := congrArg (·.messages) hm
  obtain ⟨hreplies, hlines⟩ := found_of_parts emoji p r hparts hr
  refine ⟨⟨replies, hparts, hr, hreplies⟩, hlines, threads_buildMessage .., ?_⟩
  intro r' s' e halike hs' hfail
  obtain ⟨replies', hm', hr'⟩ := value_buildMessage emoji channel p r' w
  -- nothing of a script that fails is shown
  have hshown : s'.repliesTo p = [] := by rw [Script.repliesTo, hfail]
  rw [repliesBelow_of_plays fun _ => hs', hshown, ite_self, List.forall₂_nil_left_iff] at hr'
  have hleaf : value (leaf emoji p) r' w = value (leaf emoji p) r w :=
    (congrArg Prod.fst (agree_leaf halike emoji p w)).symm
  refine ⟨?_, (threads_buildMessage ..).trans (threads_buildMessage ..).symm⟩
  rw [hm', hr', List.append_nil, hleaf]
  exact congrArg (fun x : Message => { x with messages := own }) hm.symm

end Layout

/-- The first post of a thread, with an attachment of three lines and a file. -/
def illustrated : Wire.Post :=
  { inThread "1" with
    text := "the plan"
    attachments := [{ title := "Plan", text := "in short", fields := [{ title := "Phase", value := "1" }] }]
    files := [{ id := "F1", title := "sketch", address := "https://files/F1" }] }

/-- Its thread in two parts: the post itself and a reply, then the first post of another thread and a reply. -/
def twoReplies : Script Wire.Post where
  parts := [⟨[illustrated, inThread "2"], "b"⟩]
  final := .ok ⟨[{ stamp := "3", threadStamp := "3" }, inThread "4"], ""⟩
  followed := by decide
  ended page h := by cases h; rfl

/-- The thread if its second part cannot be had. -/
def brokenOff : Script Wire.Post where
  parts := [⟨[illustrated, inThread "2"], "b"⟩]
  final := .error (.remote "conversations.replies" "fatal_error")
  followed := by decide
  ended _ h := by cases h

/-- Three lines, a file and two replies; and the message without the replies if a part cannot be had. -/
theorem layout_of_illustrated :
    let ready := partsReady ⟨[illustrated, inThread "2"], "b"⟩
      [("b", .ok ⟨[{ stamp := "3", threadStamp := "3" }, inThread "4"], ""⟩)]
    let broken := partsReady ⟨[illustrated, inThread "2"], "b"⟩
      [("b", .error (.remote "conversations.replies" "fatal_error"))]
    let m := value (buildMessage false "C1" illustrated) ready outset
    PlaysThread false "C1" illustrated ready outset twoReplies ∧
    m.messages.map (·.key) =
      [.attachment 0, .attachment 1, .attachment 2, .file "F1", .reply "2", .reply "4"] ∧
    m.replies.map (·.id) = ["2", "4"] ∧
    m.sub? (.attachment 1) = some (contentOnly "1" (Stamp.instant "1") "in short") ∧
    value (buildMessage false "C1" illustrated) broken outset = { m with messages := m.messages.take 4 } := by
  intro ready broken m
  have plays : PlaysThread false "C1" illustrated ready outset twoReplies := ⟨⟨rfl, rfl⟩, by decide⟩
  have breaks : PlaysThread false "C1" illustrated broken outset brokenOff := ⟨⟨rfl, rfl⟩, by decide⟩
  obtain ⟨⟨replies, hm, hr, hreplies⟩, hlines, _, hbroken⟩ :=
    layout_buildMessage false "C1" illustrated ready outset twoReplies fun _ => plays
  have kept : (if illustrated.startsThread then twoReplies.repliesTo illustrated else []) = [inThread "2", inThread "4"] := by
    decide
  rw [kept] at hr
  obtain _ | ⟨⟨w₁, rfl⟩, _ | ⟨⟨w₂, rfl⟩, _ | _⟩⟩ := hr
  have one : Numeral.decimal 1 = ['1'] := by decide +kernel
  refine ⟨plays, ?_, ?_, ?_, ?_⟩
  · rw [hm]
    rfl
  · rw [hreplies]
    rfl
  · rw [hlines 1, one]
    rfl
  · refine (hbroken broken brokenOff _ (fun _ _ => rfl) breaks rfl).1.trans ?_
    rw [hm]
    rfl

end Session

end TeamChat
