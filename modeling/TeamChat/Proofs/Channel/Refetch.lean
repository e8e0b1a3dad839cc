import TeamChat.Proofs.Channel.Sidebar
import TeamChat.Proofs.Session.Inquiries
import TeamChat.Proofs.Session.Listing

/-!
# `Source.fetch`: the sidebar, fetched again

The first fetch remembers something of the other side of each direct conversation that it looks at: a name, or
the placeholder for one that was not found out. A later fetch of the same conversations reads all of it back
from memory. A placeholder then counts as a name, but not as one to show, so every conversation is kept or
passed over as it was before (`again_gather`), and nobody is looked up.

## Contents
- `again_directEntry`, `again_gather`: a pass over conversations whose users are all remembered.
- `Session.NobodyAsked`: what is known of users stays, and the service is asked about nobody.
- `Session.Source`, `Source.fetch`, `fetch_eq`: the listings behind a sidebar.
- `fetch_again`: the second fetch.
-/

namespace TeamChat.Session

open Channel (Entry Kind)
open Remote (ApiError ListingType Page)
open Wire (Conversation)

variable {r : Remote} {w w₂ : World}

/-! ## Direct conversations and passes, again -/

/-- The entry of a direct conversation whose other side is remembered by a name, none for the placeholder. -/
def entryNamed? (c : Conversation) (name : String) : Option Entry :=
  if name = unknownUser c.user then none
  else some { Entry.ofConversation c .direct with name := name, presence := .away }

/-- What is remembered of the other side determines what is made of a direct conversation. -/
theorem value_directEntry (c : Conversation) :
    value (directEntry c) r w = entryNamed? c (Directory.nameOf (value (resolve c.user) r w)) := by
  unfold directEntry
  rw [value_bind]
  cases hr : value (resolve c.user) r w with
  | ok name =>
      show _ = entryNamed? c name
      unfold entryNamed?
      simp only []
      by_cases hu : name = unknownUser c.user
      · rw [if_pos hu, if_pos hu, value_pure]
      · rw [if_neg hu, if_neg hu, value_pure]
  | error u =>
      have hp := get?_resolve_error r w c.user hr
      rw [get?_resolve, if_pos rfl, hr] at hp
      exact (if_pos (Option.some.inj hp)).symm

/-- Looking the other side up again finds what the first time left in memory, be it a name or the
    placeholder. -/
theorem again_directEntry {c : Conversation} (h : Remembers (after (directEntry c) r w) w₂) :
    value (directEntry c) r w₂ = value (directEntry c) r w ∧ after (directEntry c) r w₂ = w₂ := by
  rw [after_directEntry] at h
  have hm := h _ _ ((get?_resolve r w c.user c.user).trans (if_pos rfl))
  obtain ⟨hv, ha⟩ := value_resolve_of_mem r w₂ c.user hm
  refine ⟨?_, after_directEntry.trans ha⟩
  rw [value_directEntry, value_directEntry, hv]
  rfl

/-- A pass over conversations whose users are all remembered comes to the same, and changes nothing. -/
theorem again_gather (kind? : Conversation → Option Kind) (cs : List Conversation) (ids users : List String)
    (h : Remembers (after (gather kind? ids users cs) r w) w₂) :
    value (gather kind? ids users cs) r w₂ = value (gather kind? ids users cs) r w ∧
      after (gather kind? ids users cs) r w₂ = w₂ := by
  induction cs generalizing ids users w with
  | nil => exact ⟨rfl, rfl⟩
  | cons c rest ih =>
      -- what was seen is the same both times, so the passes part at the look-up if at all
      unfold gather at h ⊢
      cases hk : kind? c with
      | none =>
          simp only [hk] at h ⊢
          exact ih ids users h
      | some kind =>
          simp only [hk] at h ⊢
          by_cases hi : ids.contains c.id = true
          · simp only [if_pos hi] at h ⊢
            exact ih ids users h
          · simp only [if_neg hi] at h ⊢
            by_cases hd : kind = .direct
            · simp only [if_pos hd] at h ⊢
              by_cases hu : users.contains c.user = true
              · simp only [if_pos hu] at h ⊢
                exact ih ids users h
              · simp only [if_neg hu, value_bind, after_bind] at h ⊢
                cases he : value (directEntry c) r w with
                | none =>
                    rw [he] at h
                    have hrest := stepwise_remembers.gather kind? rest ids users r (after (directEntry c) r w)
                    obtain ⟨hv, ha⟩ := again_directEntry (stepwise_remembers.trans hrest h)
                    rw [hv, ha, he]
                    exact ih ids users h
                | some e =>
                    rw [he] at h
                    have hrest := stepwise_remembers.gather kind? rest (c.id :: ids) (c.user :: users) r
                      (after (directEntry c) r w)
                    obtain ⟨hv, ha⟩ := again_directEntry (stepwise_remembers.trans hrest h)
                    rw [hv, ha, he]
                    obtain ⟨hr, hw⟩ := ih _ _ h
                    exact ⟨congrArg (e :: ·) hr, hw⟩
            · simp only [if_neg hd] at h ⊢
              obtain ⟨hrest, hw⟩ := ih _ _ h
              exact ⟨congrArg (_ :: ·) hrest, hw⟩

/-! ## Nobody is asked about -/

/-- What is known of users is as it was, and the service was asked about nobody. -/
structure NobodyAsked (w w' : World) : Prop where
  directory : w'.directory = w.directory
  trace : ∃ steps, w'.trace = w.trace ++ steps ∧ ∀ user, asking user ∉ steps

theorem chained_nobodyAsked : Chained NobodyAsked where
  refl _ := ⟨rfl, [], (List.append_nil _).symm, fun _ => List.not_mem_nil⟩
  trans h₁ h₂ := by
    obtain ⟨hd, steps, hs, hn⟩ := h₁
    obtain ⟨hd', steps', hs', hn'⟩ := h₂
    refine ⟨hd'.trans hd, steps ++ steps', ?_, fun user hu => ?_⟩
    · rw [hs', hs, List.append_assoc]
    · exact (List.mem_append.mp hu).elim (hn user) (hn' user)

/-- A call that asks about nobody. -/
theorem nobodyAsked_call {c : Remote.Call} (hc : ∀ user, c ≠ .userInfo user) : Along NobodyAsked (call c) := by
  intro r w
  refine ⟨directory_called w c, [.acquire, .call c], trace_called w c, fun user hu => ?_⟩
  have he : c = .userInfo user := by simpa [asking, eq_comm] using hu
  exact hc user he

/-! ## The listings behind a sidebar -/

/-- Where the conversations of a sidebar are listed: in the whole workspace, with or without public channels, or
    among those that the user belongs to. -/
inductive Source
  | workspace (includePublic : Bool)
  | own
deriving DecidableEq, Repr

namespace Source

/-- Whether public channels are listed. -/
def includePublic : Source → Bool
  | .workspace includePublic => includePublic
  | .own => true

/-- Whether channels and groups are left out that the user has not joined. -/
def membersOnly : Source → Bool
  | .workspace _ => true
  | .own => false

/-- The types that are listed. -/
def types (s : Source) : List ListingType :=
  if s.includePublic then .publicChannel :: privateTypes else privateTypes

/-- A part of the listing. -/
def part (s : Source) (cursor : String) : Session (Except ApiError (Page Conversation)) :=
  match s with
  | .workspace _ => call (.listConversations { types := s.types, cursor := cursor })
  | .own => call (.userConversations { types := s.types, cursor := cursor })

/-- The sidebar. -/
def fetch : Source → Session (Except ApiError (List Entry))
  | .workspace includePublic => fetchAll includePublic
  | .own => fetchForUser

/-- All parts are listed before anybody is looked up. -/
theorem fetch_eq (s : Source) :
    s.fetch = do
      match ← collect s.part with
      | .error e => return .error e
      | .ok cs => return .ok (← aggregate s.includePublic s.membersOnly cs) := by
  cases s with
  | workspace includePublic => rfl
  | own => rfl

theorem nobodyAsked_part (s : Source) (cursor : String) : Along NobodyAsked (s.part cursor) := by
  cases s with
  | workspace includePublic => exact nobodyAsked_call fun user => by simp
  | own => exact nobodyAsked_call fun user => by simp

end Source

/-! ## The second fetch -/

/-- A sidebar that is made again of the same conversations. -/
theorem again_aggregate {includePublic membersOnly : Bool} {cs : List Conversation}
    (h : Remembers (after (aggregate includePublic membersOnly cs) r w) w₂) :
    value (aggregate includePublic membersOnly cs) r w₂ = value (aggregate includePublic membersOnly cs) r w ∧
      after (aggregate includePublic membersOnly cs) r w₂ = w₂ := by
  obtain ⟨hv, ha⟩ := again_gather (Channel.listedAs includePublic membersOnly) cs [] [] h
  exact ⟨congrArg Channel.arrange hv, ha⟩

/-- **A sidebar that is fetched again is the same, and nobody is looked up for it.** Whatever is known at first,
    whatever the service answers about users, now or later, and whatever happens between the two fetches: if no
    name is forgotten in the meantime, and the second listing gets the same parts as the first, then its outcome
    is the same, the service is asked about nobody, and what is known of users stays as it is. -/
theorem fetch_again (s : Source) (r : Remote) (w w₂ : World) (hmem : Remembers (after s.fetch r w) w₂)
    (hparts : value (parts s.part) r w₂ = value (parts s.part) r w) :
    value s.fetch r w₂ = value s.fetch r w ∧ NobodyAsked w₂ (after s.fetch r w₂) := by
  have hlist : value (collect s.part) r w₂ = value (collect s.part) r w := by
    rw [value_collect, value_collect, hparts]
  have hquiet : NobodyAsked w₂ (after (collect s.part) r w₂) :=
    chained_nobodyAsked.collect s.nobodyAsked_part r w₂
  rw [s.fetch_eq, value_bind, value_bind, after_bind, hlist]
  rw [s.fetch_eq, after_bind] at hmem
  cases hcs : value (collect s.part) r w with
  | error e => exact ⟨rfl, hquiet⟩
  | ok cs =>
      rw [hcs] at hmem
      -- the second listing leaves the names alone that the first fetch left in memory
      have hkept : Remembers (after (aggregate s.includePublic s.membersOnly cs) r (after (collect s.part) r w))
          (after (collect s.part) r w₂) := by
        intro user name hu
        rw [hquiet.directory]
        exact hmem user name hu
      obtain ⟨hv, ha⟩ := again_aggregate hkept
      refine ⟨congrArg Except.ok hv, ?_⟩
      show NobodyAsked w₂ (after (aggregate s.includePublic s.membersOnly cs) r (after (collect s.part) r w₂))
      rw [ha]
      exact hquiet

/-- A service that lists two direct conversations with U1 and one with U2, in two parts, and that changes its
    mind about users: at first U1 is alice and U2 is nobody, later all are bob. -/
def fickle : Remote where
  answer trace
    | .listConversations q =>
      if q.cursor = "" then
        .ok ⟨[{ id := "D1", isDirect := true, user := "U2" }, { id := "D2", isDirect := true, user := "U1" }], "2"⟩
      else .ok ⟨[{ id := "D3", isDirect := true, user := "U1" }], ""⟩
    | .userInfo user =>
      if asking user ∈ trace then .ok { id := user, name := "bob" }
      else if user = "U1" then .ok { id := user, name := "alice" }
      else .error (.remote "users.info" "user_not_found")
    | c => .error (.remote c.method "unknown_method")
  openStream _ := .error (.http .builder)
  horizon := 2

/-- Eight days later the sidebar still shows alice, and nobody else. -/
theorem fetch_again_fickle :
    let s : Source := .workspace true
    let w := after s.fetch fickle outset
    let w₂ := paused 691200000000000 691200 w
    let alice : Entry :=
      { id := "D2", name := "alice", userId := "U1", presence := .away, kind := .direct }
    value s.fetch fickle outset = .ok [alice] ∧ Remembers w w₂ ∧
      value (parts s.part) fickle w₂ = value (parts s.part) fickle outset ∧
      value s.fetch fickle w₂ = .ok [alice] ∧ NobodyAsked w₂ (after s.fetch fickle w₂) := by
  intro s w w₂ alice
  have hfirst : value s.fetch fickle outset = .ok [alice] := by decide +kernel
  have hmem : Remembers w w₂ := fun _ _ h => h
  have hparts : value (parts s.part) fickle w₂ = value (parts s.part) fickle outset := by rfl
  obtain ⟨hv, hn⟩ := fetch_again s fickle outset w₂ hmem hparts
  exact ⟨hfirst, hmem, hparts, hv.trans hfirst, hn⟩

end TeamChat.Session
