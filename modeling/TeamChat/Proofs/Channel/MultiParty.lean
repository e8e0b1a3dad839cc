import TeamChat.Proofs.Channel.Refetch

/-!
# `Source.fetch`: open conversations of several users

A conversation of several users is shown while it is open. The filter for members goes before that: in the
sidebar of the whole workspace an open one that the user does not belong to is left out (`shown_iff_joined`),
as channels and groups are. What is said of the filter is that channels and groups pass through it, and that
conversations of several users are listed while they are open, so one that is missing for this reason is
missing against the rule (`unjoined_not_shown`). In the sidebar of the user's own conversations all open ones
are shown.

## Contents
- `Channel.OpenMultiParty`, `classify_eq_some_iff`: the conversations, and when they are listed.
- `Session.Source.listing`, `sidebar_of_fetch`: a sidebar is that of the conversations that were listed.
- `Session.Source.Admits`, `shown_iff_joined`: when an open conversation of several users is shown.
- `unjoined_not_shown`: one that is not.
-/

namespace TeamChat

open Channel (Entry Kind classify Represents Sidebar)
open Remote (ApiError)
open Wire (Conversation)

namespace Channel

/-- An open conversation of several users. -/
structure OpenMultiParty (c : Conversation) : Prop where
  several : c.isMultiParty = true
  opened : c.isOpen = true
  not_direct : c.isDirect = false

/-- Whether such a conversation is listed depends on the filter for members alone. -/
theorem OpenMultiParty.classify_eq_some_iff {membersOnly : Bool} {c : Conversation} {k : Kind}
    (h : OpenMultiParty c) :
    classify membersOnly c = some k ↔ (membersOnly = true → c.isMember = true) ∧ k = .multiParty := by
  unfold classify
  rw [h.not_direct, h.several, h.opened]
  cases membersOnly <;> cases c.isMember <;> simp [eq_comm]

end Channel

namespace Session

open Channel (OpenMultiParty)

namespace Source

/-- The conversations that are listed for a sidebar, those of all parts. -/
def listing (s : Source) : Session (Except ApiError (List Conversation)) :=
  collect s.part

/-- Whether a conversation passes the filter for members, if there is one. -/
def Admits (s : Source) (c : Conversation) : Prop :=
  s.membersOnly = true → c.isMember = true

/-- **A sidebar is that of the conversations that were listed**, and there is one if these could be listed. -/
theorem sidebar_of_fetch {s : Source} {r : Remote} {w : World} {cs : List Conversation}
    (h : value s.listing r w = .ok cs) :
    ∃ shown, value s.fetch r w = .ok shown ∧
      Sidebar s.includePublic s.membersOnly cs (after s.fetch r w) shown := by
  have hpass := pass_gather (Channel.listedAs s.includePublic s.membersOnly) r cs [] [] (after (collect s.part) r w)
  unfold listing at h
  rw [s.fetch_eq, value_bind, after_bind, h]
  exact ⟨_, rfl, hpass.gathered.sidebar⟩

end Source

/-- **When an open conversation of several users is shown.** The sidebar is fetched whenever its conversations
    can be listed. An open conversation of several users that passes the filter for members is represented by
    an entry of its id, wherever it stands in the listing and whatever is known or answered about users. If no
    other conversation of the listing has its id, there is an entry of that id only if it passes the filter,
    and the entry is of a conversation of several users. -/
theorem shown_iff_joined (s : Source) (r : Remote) (w : World) {cs : List Conversation} {c : Conversation}
    (hl : value s.listing r w = .ok cs) (hc : c ∈ cs) (hm : OpenMultiParty c) :
    ∃ shown, value s.fetch r w = .ok shown ∧
      (s.Admits c → ∃ e ∈ shown, e.id = c.id) ∧
      ((∀ c' ∈ cs, c'.id = c.id → c' = c) →
        ((∃ e ∈ shown, e.id = c.id) ↔ s.Admits c) ∧ ∀ e ∈ shown, e.id = c.id → e.kind = .multiParty) := by
  obtain ⟨shown, hf, hside⟩ := Source.sidebar_of_fetch hl
  have admitted : s.Admits c → ∃ e ∈ shown, e.id = c.id := by
    intro ha
    have hlisted : classify s.membersOnly c = some .multiParty := hm.classify_eq_some_iff.mpr ⟨ha, rfl⟩
    -- a conversation that is not direct is accounted for by an entry of its own id
    obtain hid | ⟨hd, _⟩ | ⟨hd, _⟩ := hside.accounted c hc _ hlisted (fun h => absurd h (by decide))
    · exact hid
    · exact absurd hd (by decide)
    · exact absurd hd (by decide)
  refine ⟨shown, hf, admitted, fun halone => ?_⟩
  have stands : ∀ e ∈ shown, e.id = c.id → s.Admits c ∧ e.kind = .multiParty := by
    intro e he hid
    obtain ⟨_, c', hc', hrep⟩ := hside.represents e he
    obtain rfl : c' = c := halone c' hc' (hrep.id.symm.trans hid)
    exact hm.classify_eq_some_iff.mp hrep.kind
  exact ⟨⟨fun ⟨e, he, hid⟩ => (stands e he hid).1, admitted⟩, fun e he hid => (stands e he hid).2⟩

/-- An open conversation of several users that the user does not belong to. -/
def unjoined : Conversation := { id := "M1", name := "mpdm", isMultiParty := true, isOpen := true }

/-- One that the user belongs to. -/
def joined : Conversation := { unjoined with id := "M2", isMember := true }

/-- A service that lists these two, in two parts. -/
def listsBoth : Remote where
  answer _
    | .listConversations q => if q.cursor = "" then .ok ⟨[unjoined], "2"⟩ else .ok ⟨[joined], ""⟩
    | c => .error (.remote c.method "unknown_method")
  openStream _ := .error (.http .builder)
  horizon := 2

theorem openMultiParty_unjoined : OpenMultiParty unjoined := ⟨rfl, rfl, rfl⟩

theorem listing_listsBoth : value (Source.workspace true).listing listsBoth outset = .ok [unjoined, joined] := rfl

/-- **One that is not shown**, though it is open: the filter for members takes it out. -/
theorem unjoined_not_shown :
    ¬ ∀ (includePublic : Bool) (r : Remote) (w : World) (cs : List Conversation) (c : Conversation),
      value (Source.workspace includePublic).listing r w = .ok cs → c ∈ cs → OpenMultiParty c →
      ∃ shown, value (fetchAll includePublic) r w = .ok shown ∧ ∃ e ∈ shown, e.id = c.id := by
  intro h
  obtain ⟨shown, hf, e, he, hid⟩ :=
    h true listsBoth outset _ _ listing_listsBoth List.mem_cons_self openMultiParty_unjoined
  have hshown : value (fetchAll true) listsBoth outset = .ok [Entry.ofConversation joined .multiParty] := by
    decide +kernel
  rw [hshown] at hf
  rw [← Except.ok.inj hf, List.mem_singleton] at he
  rw [he] at hid
  exact absurd hid (by decide)

/-- Of the two conversations only the one that the user belongs to is shown. -/
theorem shown_of_both :
    value (Source.workspace true).listing listsBoth outset = .ok [unjoined, joined] ∧
    ∃ shown, value (Source.workspace true).fetch listsBoth outset = .ok shown ∧
      (∃ e ∈ shown, e.id = "M2") ∧ ¬ ∃ e ∈ shown, e.id = "M1" := by
  obtain ⟨shown, hf, _, halone⟩ := shown_iff_joined (.workspace true) listsBoth outset listing_listsBoth
    List.mem_cons_self openMultiParty_unjoined
  obtain ⟨shown', hf', hadmits, _⟩ := shown_iff_joined (.workspace true) listsBoth outset listing_listsBoth
    (List.mem_cons_of_mem _ List.mem_cons_self) (c := joined) ⟨rfl, rfl, rfl⟩
  obtain rfl : shown' = shown := Except.ok.inj (hf'.symm.trans hf)
  have only : ∀ c' ∈ [unjoined, joined], c'.id = unjoined.id → c' = unjoined := by decide
  refine ⟨listing_listsBoth, shown', hf, hadmits fun _ => rfl, fun hex => ?_⟩
  exact absurd ((halone only).1.mp hex rfl) (by decide)

end Session

end TeamChat
