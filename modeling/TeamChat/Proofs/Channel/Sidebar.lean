import TeamChat.Proofs.Channel.Arrange
import TeamChat.Proofs.Session.Names
import Mathlib.Data.List.Forall2

/-!
# `Session.aggregate`: the sidebar for conversations

One pass over the conversations decides which of them get an entry. It looks up a user for each direct
conversation on the way, and counts a conversation as seen only if it is kept. `Pass` says all that it can do
with each of them. From that follow, by induction on the pass, who was looked up and what is true of the
entries (`Gathered`), for whatever was seen before; `Sidebar` says what it comes to for all conversations in
the order of the sidebar.

## Contents
- `Channel.Represents`: an entry that stands for a conversation.
- `Session.directEntry_some`, `directEntry_none`: the entry of a direct conversation, and why there is none.
- `Session.Pass`, `pass_gather`: a pass, conversation by conversation.
- `Session.Gathered`, `Pass.gathered`: what is true of the entries behind a pass.
- `Channel.Sidebar`, `Session.sidebar_aggregate`: the sidebar.
-/

namespace TeamChat

open Channel (Entry Kind classify listedAs arrange)
open Wire (Conversation)

namespace Channel

variable {membersOnly includePublic : Bool} {c : Conversation} {k : Kind}

/-- A conversation is listed if it has a kind, and is not a public channel while these are left out. -/
theorem listedAs_eq_some_iff :
    listedAs includePublic membersOnly c = some k ↔
      classify membersOnly c = some k ∧ (k = .channel → includePublic = true) := by
  unfold listedAs
  rw [Option.filter_eq_some_iff]
  refine and_congr_right fun _ => ?_
  cases k <;> simp

/-- An entry stands for a conversation: it has its id and its kind, and there is something new exactly if
    there is in the conversation. A direct one carries the name that the other side is remembered by, which
    is not the placeholder. -/
structure Represents (kind? : Conversation → Option Kind) (w : World) (e : Entry) (c : Conversation) :
    Prop where
  id : e.id = c.id
  kind : kind? c = some e.kind
  user : e.userId = c.user
  topic : e.topic = c.topic.value
  notification : e.notification = true ↔ 0 < c.unreadCount
  named : e.kind ≠ .direct → e.name = c.name
  direct : e.kind = .direct → w.directory.memory.get? e.userId = some e.name ∧
    e.name ≠ unknownUser e.userId ∧ e.presence = .away

/-- A user who is remembered stays remembered, so an entry goes on standing for its conversation. -/
theorem Represents.mono {kind? : Conversation → Option Kind} {w w' : World} {e : Entry}
    (hw : Session.Remembers w w') (h : Represents kind? w e c) : Represents kind? w' e c :=
  { h with direct := fun hk => ⟨hw _ _ (h.direct hk).1, (h.direct hk).2⟩ }

end Channel

namespace Session

open Channel (Represents)

/-! ## Direct conversations -/

section Direct

variable {kind? : Conversation → Option Kind} {c : Conversation} {r : Remote} {w : World} {e : Entry}

theorem after_directEntry : after (directEntry c) r w = after (resolve c.user) r w := by
  unfold directEntry
  rw [after_bind]
  split
  · split <;> rfl
  · rfl

/-- The entry of a direct conversation stands for it. -/
theorem directEntry_some (hk : kind? c = some .direct) (h : value (directEntry c) r w = some e) :
    e.kind = .direct ∧ Represents kind? (after (directEntry c) r w) e c := by
  rw [after_directEntry]
  have hm := get?_resolve r w c.user c.user
  unfold directEntry at h
  rw [value_bind] at h
  split at h
  · next name hn =>
      rw [if_pos rfl, hn] at hm
      split at h
      · exact absurd h (by simp)
      · next hne =>
          have he : _ = e := Option.some.inj h
          subst he
          exact ⟨rfl, { id := rfl, kind := hk, user := rfl, topic := rfl
                        notification := decide_eq_true_iff
                        named := fun hd => absurd rfl hd
                        direct := fun _ => ⟨hm, hne, rfl⟩ }⟩
  · exact absurd h (by simp)

/-- Without an entry, the other side is remembered by the placeholder. -/
theorem directEntry_none (h : value (directEntry c) r w = none) :
    (after (directEntry c) r w).directory.memory.get? c.user = some (unknownUser c.user) := by
  rw [after_directEntry]
  unfold directEntry at h
  rw [value_bind] at h
  split at h
  · next name hn =>
      split at h
      · next hu =>
          rw [get?_resolve, if_pos rfl, hn]
          exact congrArg some hu
      · exact absurd h (by simp)
  · next u hn => exact get?_resolve_error r w c.user hn

/-- The entry of any other conversation stands for it. -/
theorem represents_ofConversation {k : Kind} (hk : kind? c = some k) (hd : k ≠ .direct) :
    Represents kind? w (Entry.ofConversation c k) c where
  id := rfl
  kind := hk
  user := rfl
  topic := rfl
  notification := decide_eq_true_iff
  named _ := rfl
  direct h := absurd h hd

end Direct

/-! ## A pass over conversations -/

/-- **All that a pass can do with a conversation.** It is passed over, because it is not listed, or its id
    was seen, or it is direct and its user was seen; or it is direct and its user has no name; or it gets an
    entry, and its id, and its user if it is direct, count as seen from then on. -/
inductive Pass (kind? : Conversation → Option Kind) (r : Remote) :
    List String → List String → List Conversation → World → List Entry → World → Prop
  | nil {ids users w} : Pass kind? r ids users [] w [] w
  | skip {ids users c cs w entries w'}
      (seen : ∀ k, kind? c = some k → c.id ∈ ids ∨ (k = .direct ∧ c.user ∈ users))
      (rest : Pass kind? r ids users cs w entries w') : Pass kind? r ids users (c :: cs) w entries w'
  | unnamed {ids users c cs w entries w'} (kind : kind? c = some .direct)
      (none : value (directEntry c) r w = none)
      (rest : Pass kind? r ids users cs (after (directEntry c) r w) entries w') :
      Pass kind? r ids users (c :: cs) w entries w'
  | direct {ids users c cs w e entries w'} (kind : kind? c = some .direct) (id_new : c.id ∉ ids)
      (user_new : c.user ∉ users) (entry : value (directEntry c) r w = some e)
      (rest : Pass kind? r (c.id :: ids) (c.user :: users) cs (after (directEntry c) r w) entries w') :
      Pass kind? r ids users (c :: cs) w (e :: entries) w'
  | other {ids users c cs w k entries w'} (kind : kind? c = some k) (other : k ≠ .direct)
      (id_new : c.id ∉ ids) (rest : Pass kind? r (c.id :: ids) users cs w entries w') :
      Pass kind? r ids users (c :: cs) w (Entry.ofConversation c k :: entries) w'

theorem pass_gather (kind? : Conversation → Option Kind) (r : Remote) (cs : List Conversation)
    (ids users : List String) (w : World) :
    Pass kind? r ids users cs w (value (gather kind? ids users cs) r w)
      (after (gather kind? ids users cs) r w) := by
  induction cs generalizing ids users w with
  | nil => exact .nil
  | cons c rest ih =>
      unfold gather
      split
      · next hk => exact .skip (fun k hk' => absurd (hk.symm.trans hk') (by simp)) (ih ids users w)
      · next kind hk =>
          by_cases hi : c.id ∈ ids
          · rw [if_pos (List.contains_iff_mem.mpr hi)]
            exact .skip (fun _ _ => .inl hi) (ih ids users w)
          · rw [if_neg (fun h => hi (List.contains_iff_mem.mp h))]
            by_cases hd : kind = .direct
            · rw [if_pos hd]
              subst hd
              by_cases hu : c.user ∈ users
              · rw [if_pos (List.contains_iff_mem.mpr hu)]
                refine .skip (fun k hk' => .inr ⟨?_, hu⟩) (ih ids users w)
                exact (Option.some.inj (hk.symm.trans hk')).symm
              · rw [if_neg (fun h => hu (List.contains_iff_mem.mp h)), value_bind, after_bind]
                cases he : value (directEntry c) r w with
                | none => exact .unnamed hk he (ih ids users _)
                | some e => exact .direct hk hi hu he (ih _ _ _)
            · rw [if_neg hd]
              exact .other hk hd hi (ih _ users w)

namespace Pass

variable {kind? : Conversation → Option Kind} {r : Remote} {ids users : List String} {cs : List Conversation}
  {w w' : World} {entries : List Entry}

/-- A pass does nothing to the world but look up the other sides of direct conversations. -/
theorem asked (h : Pass kind? r ids users cs w entries w') :
    ∃ asked, w' = lookedUp r asked w ∧ ∀ user ∈ asked, ∃ c ∈ cs, kind? c = some .direct ∧ c.user = user := by
  have later {c : Conversation} {cs : List Conversation} {asked : List String}
      (h : ∀ user ∈ asked, ∃ c ∈ cs, kind? c = some .direct ∧ c.user = user) :
      ∀ user ∈ asked, ∃ c' ∈ c :: cs, kind? c' = some .direct ∧ c'.user = user := by
    intro user hu
    obtain ⟨c', hc', hd⟩ := h user hu
    exact ⟨c', List.mem_cons_of_mem c hc', hd⟩
  have first {c : Conversation} {cs : List Conversation} {asked : List String} (hk : kind? c = some .direct)
      (h : ∀ user ∈ asked, ∃ c ∈ cs, kind? c = some .direct ∧ c.user = user) :
      ∀ user ∈ c.user :: asked, ∃ c' ∈ c :: cs, kind? c' = some .direct ∧ c'.user = user :=
    List.forall_mem_cons.mpr ⟨⟨c, List.mem_cons_self, hk, rfl⟩, later h⟩
  induction h with
  | nil => exact ⟨[], rfl, fun user hu => absurd hu List.not_mem_nil⟩
  | skip _ _ ih =>
      obtain ⟨asked, hw, hall⟩ := ih
      exact ⟨asked, hw, later hall⟩
  | @unnamed _ _ c _ w _ _ hk _ _ ih =>
      obtain ⟨asked, hw, hall⟩ := ih
      rw [after_directEntry] at hw
      exact ⟨c.user :: asked, hw, first hk hall⟩
  | @direct _ _ c _ w _ _ _ hk _ _ _ _ ih =>
      obtain ⟨asked, hw, hall⟩ := ih
      rw [after_directEntry] at hw
      exact ⟨c.user :: asked, hw, first hk hall⟩
  | other _ _ _ _ ih =>
      obtain ⟨asked, hw, hall⟩ := ih
      exact ⟨asked, hw, later hall⟩

/-- A pass forgets no name. -/
theorem remembers (h : Pass kind? r ids users cs w entries w') : Remembers w w' := by
  obtain ⟨asked, hw, _⟩ := h.asked
  rw [hw]
  exact remembers_lookedUp r w asked

end Pass

/-! ## What is true behind a pass -/

/-- A conversation is accounted for: by an entry of its id or, if it is direct, by one of the same user, or
    by the placeholder that the user is remembered by. -/
def Accounted (w : World) (entries : List Entry) (c : Conversation) (k : Kind) : Prop :=
  (∃ e ∈ entries, e.id = c.id) ∨
  (k = .direct ∧ ∃ e ∈ entries, e.kind = .direct ∧ e.userId = c.user) ∨
  (k = .direct ∧ w.directory.memory.get? c.user = some (unknownUser c.user))

/-- One more entry accounts for no less. -/
theorem Accounted.cons {w : World} {entries : List Entry} {c : Conversation} {k : Kind}
    (h : Accounted w entries c k) (e : Entry) : Accounted w (e :: entries) c k := by
  obtain ⟨e', he, hi⟩ | ⟨hk, e', he, hu⟩ | hp := h
  · exact .inl ⟨e', List.mem_cons_of_mem e he, hi⟩
  · exact .inr (.inl ⟨hk, e', List.mem_cons_of_mem e he, hu⟩)
  · exact .inr (.inr hp)

/-- **What is true of the entries behind a pass**, if some ids and some users were seen before it: they stand
    for some of the conversations, in the same order; no two have the same id, and no two direct ones the
    same user, nor do they have any that was seen; and each conversation that has a kind was seen before or is
    accounted for. -/
structure Gathered (kind? : Conversation → Option Kind) (ids users : List String) (cs : List Conversation)
    (w : World) (entries : List Entry) : Prop where
  kept : ∃ kept, kept.Sublist cs ∧ List.Forall₂ (Represents kind? w) entries kept
  ids_distinct : entries.Pairwise fun a b => a.id ≠ b.id
  ids_new : ∀ e ∈ entries, e.id ∉ ids
  users_distinct : entries.Pairwise fun a b => a.kind = .direct → b.kind = .direct → a.userId ≠ b.userId
  users_new : ∀ e ∈ entries, e.kind = .direct → e.userId ∉ users
  all : ∀ c ∈ cs, ∀ k, kind? c = some k →
    c.id ∈ ids ∨ (k = .direct ∧ c.user ∈ users) ∨ Accounted w entries c k

namespace Gathered

variable {kind? : Conversation → Option Kind} {ids users users' : List String} {c : Conversation}
  {cs : List Conversation} {w : World} {e : Entry} {entries : List Entry}

theorem nil : Gathered kind? ids users [] w [] where
  kept := ⟨[], List.Sublist.refl _, .nil⟩
  ids_distinct := .nil
  ids_new _ he := absurd he List.not_mem_nil
  users_distinct := .nil
  users_new _ he := absurd he List.not_mem_nil
  all _ hc := absurd hc List.not_mem_nil

/-- A conversation is passed over. -/
theorem skip (h : Gathered kind? ids users cs w entries)
    (hc : ∀ k, kind? c = some k → c.id ∈ ids ∨ (k = .direct ∧ c.user ∈ users) ∨ Accounted w entries c k) :
    Gathered kind? ids users (c :: cs) w entries := by
  obtain ⟨kept, hsub, hrep⟩ := h.kept
  refine { h with kept := ⟨kept, hsub.cons c, hrep⟩, all := fun c' hc' k hk => ?_ }
  rcases List.mem_cons.mp hc' with rfl | hc'
  · exact hc k hk
  · exact h.all c' hc' k hk

/-- A conversation gets an entry, and counts as seen from then on. -/
theorem keep (h : Gathered kind? (c.id :: ids) users' cs w entries) (hrep : Represents kind? w e c)
    (hid : c.id ∉ ids) (hnew : e.kind = .direct → c.user ∉ users)
    (husers : ∀ u, u ∈ users' ↔ (e.kind = .direct ∧ u = c.user) ∨ u ∈ users) :
    Gathered kind? ids users (c :: cs) w (e :: entries) where
  kept := by
    obtain ⟨kept, hsub, hreps⟩ := h.kept
    exact ⟨c :: kept, hsub.cons_cons c, .cons hrep hreps⟩
  ids_distinct := by
    refine .cons (fun e' he' hee => ?_) h.ids_distinct
    exact h.ids_new e' he' (List.mem_cons.mpr (.inl (hee.symm.trans hrep.id)))
  ids_new e' he' := by
    rcases List.mem_cons.mp he' with rfl | he'
    · rw [hrep.id]
      exact hid
    · exact fun hi => h.ids_new e' he' (List.mem_cons_of_mem _ hi)
  users_distinct := by
    refine .cons (fun e' he' hk hk' hee => ?_) h.users_distinct
    exact h.users_new e' he' hk' ((husers _).mpr (.inl ⟨hk, hee.symm.trans hrep.user⟩))
  users_new e' he' hk' := by
    rcases List.mem_cons.mp he' with rfl | he'
    · rw [hrep.user]
      exact hnew hk'
    · exact fun hu => h.users_new e' he' hk' ((husers _).mpr (.inr hu))
  all c' hc' k hk := by
    rcases List.mem_cons.mp hc' with rfl | hc'
    · exact .inr (.inr (.inl ⟨e, List.mem_cons_self, hrep.id⟩))
    · rcases h.all c' hc' k hk with hi | ⟨hd, hu⟩ | ha
      · -- an id or a user that counts as seen since is that of the new entry
        rcases List.mem_cons.mp hi with hi | hi
        · exact .inr (.inr (.inl ⟨e, List.mem_cons_self, hrep.id.trans hi.symm⟩))
        · exact .inl hi
      · rcases (husers _).mp hu with ⟨he, hu⟩ | hu
        · exact .inr (.inr (.inr (.inl ⟨hd, e, List.mem_cons_self, he, hrep.user.trans hu.symm⟩)))
        · exact .inr (.inl ⟨hd, hu⟩)
      · exact .inr (.inr (ha.cons e))

end Gathered

/-- **Every pass is like that**, whatever was seen before it. -/
theorem Pass.gathered {kind? : Conversation → Option Kind} {r : Remote} {ids users : List String}
    {cs : List Conversation} {w w' : World} {entries : List Entry}
    (h : Pass kind? r ids users cs w entries w') : Gathered kind? ids users cs w' entries := by
  induction h with
  | nil => exact .nil
  | skip seen _ ih => exact ih.skip fun k hk => (seen k hk).imp_right .inl
  | unnamed hk hn rest ih =>
      -- the placeholder is still remembered behind the rest of the pass
      have hp := rest.remembers _ _ (directEntry_none hn)
      refine ih.skip fun k hk' => .inr (.inr (.inr (.inr ⟨?_, hp⟩)))
      exact (Option.some.inj (hk.symm.trans hk')).symm
  | direct hk hid hu he rest ih =>
      obtain ⟨hd, hrep⟩ := directEntry_some hk he
      refine ih.keep (hrep.mono rest.remembers) hid (fun _ => hu) fun user => ?_
      rw [List.mem_cons, and_iff_right hd]
  | other hk hd hid _ ih =>
      refine ih.keep (represents_ofConversation hk hd) hid (fun he => absurd he hd) fun user => ?_
      exact ⟨.inr, fun h => h.elim (fun ⟨he, _⟩ => absurd he hd) id⟩

end Session

/-! ## The sidebar -/

namespace Channel

/-- **The sidebar for conversations.** It is in order; leaving the order aside, its entries stand for some of
    the conversations, in the order in which these were listed, and so do those of one kind and one name in
    the sidebar itself; ids, and users of direct entries, are distinct; and each conversation that is to be
    listed is accounted for. -/
structure Sidebar (includePublic membersOnly : Bool) (cs : List Conversation) (w : World)
    (shown : List Entry) : Prop where
  ordered : shown.Pairwise InOrder
  stable : ∃ listing kept, kept.Sublist cs ∧ List.Forall₂ (Represents (classify membersOnly) w) listing kept ∧
    ∀ k name, (shown.filter fun e => e.kind = k ∧ e.name = name) =
      listing.filter fun e => e.kind = k ∧ e.name = name
  ids_distinct : shown.Pairwise fun a b => a.id ≠ b.id
  users_distinct : shown.Pairwise fun a b => a.kind = .direct → b.kind = .direct → a.userId ≠ b.userId
  represents : ∀ e ∈ shown, (e.kind = .channel → includePublic = true) ∧
    ∃ c ∈ cs, Represents (classify membersOnly) w e c
  accounted : ∀ c ∈ cs, ∀ k, classify membersOnly c = some k → (k = .channel → includePublic = true) →
    Session.Accounted w shown c k

end Channel

namespace Session

open Channel (Represents Sidebar)

variable {includePublic membersOnly : Bool} {cs : List Conversation} {w : World} {entries : List Entry}

/-- An entry of a pass stands for one of the conversations. -/
theorem Gathered.represents {kind? : Conversation → Option Kind} {ids users : List String} {e : Entry}
    (h : Gathered kind? ids users cs w entries) (he : e ∈ entries) : ∃ c ∈ cs, Represents kind? w e c := by
  obtain ⟨kept, hsub, hrep⟩ := h.kept
  obtain ⟨i, hi, rfl⟩ := List.mem_iff_getElem.mp he
  have hi' : i < kept.length := by rwa [← hrep.length_eq]
  exact ⟨kept[i], hsub.subset (List.getElem_mem hi'), hrep.get hi hi'⟩

/-- What accounts for a conversation before the entries are put in order does so after. -/
theorem Accounted.of_perm {l l' : List Entry} {c : Conversation} {k : Kind} (h : Accounted w l c k)
    (hp : l.Perm l') : Accounted w l' c k := by
  obtain ⟨e, he, hi⟩ | ⟨hk, e, he, hu⟩ | hn := h
  · exact .inl ⟨e, hp.subset he, hi⟩
  · exact .inr (.inl ⟨hk, e, hp.subset he, hu⟩)
  · exact .inr (.inr hn)

/-- What a pass gathers makes up the sidebar once it is put in order. -/
theorem Gathered.sidebar (h : Gathered (listedAs includePublic membersOnly) [] [] cs w entries) :
    Sidebar includePublic membersOnly cs w (arrange entries) := by
  obtain ⟨kept, hsub, hrep⟩ := h.kept
  have hperm : (arrange entries).Perm entries := Channel.arrange_perm
  have classified {e : Entry} {c : Conversation}
      (he : Represents (listedAs includePublic membersOnly) w e c) : Represents (classify membersOnly) w e c :=
    { he with kind := (Channel.listedAs_eq_some_iff.mp he.kind).1 }
  refine ⟨Channel.pairwise_arrange, ⟨entries, kept, hsub, hrep.imp fun _ _ => classified, fun k name => ?_⟩,
    ?_, ?_, fun e he => ?_, fun c hc k hk hp => ?_⟩
  · exact Channel.filter_arrange name
  · exact (hperm.pairwise_iff fun hab => hab.symm).mpr h.ids_distinct
  · exact (hperm.pairwise_iff fun hab ha hb => (hab hb ha).symm).mpr h.users_distinct
  · obtain ⟨c, hc, hrep⟩ := h.represents (Channel.mem_arrange.mp he)
    exact ⟨(Channel.listedAs_eq_some_iff.mp hrep.kind).2, c, hc, classified hrep⟩
  · rcases h.all c hc k (Channel.listedAs_eq_some_iff.mpr ⟨hk, hp⟩) with hi | ⟨_, hu⟩ | ha
    · exact absurd hi List.not_mem_nil
    · exact absurd hu List.not_mem_nil
    · exact ha.of_perm hperm.symm

/-- **Whatever the conversations are, and whatever is known or answered about users, the outcome is the
    sidebar for these conversations.** Nothing else happens on the way than that users of direct
    conversations are looked up. -/
theorem sidebar_aggregate (includePublic membersOnly : Bool) (cs : List Conversation) (r : Remote)
    (w : World) :
    let shown := value (aggregate includePublic membersOnly cs) r w
    let w' := after (aggregate includePublic membersOnly cs) r w
    Sidebar includePublic membersOnly cs w' shown ∧
    ∃ asked, w' = lookedUp r asked w ∧
      ∀ user ∈ asked, ∃ c ∈ cs, classify membersOnly c = some .direct ∧ c.user = user := by
  have hp := pass_gather (listedAs includePublic membersOnly) r cs [] [] w
  obtain ⟨asked, ha, hall⟩ := hp.asked
  refine ⟨hp.gathered.sidebar, asked, ha, fun user hu => ?_⟩
  obtain ⟨c, hc, hk, hcu⟩ := hall user hu
  exact ⟨c, hc, (Channel.listedAs_eq_some_iff.mp hk).1, hcu⟩

end Session

end TeamChat
