import TeamChat.Proofs.Session.Inquiries
import TeamChat.Remote.Http

/-!
# `unknownUser`: which placeholders reach the store

A user whose name cannot be found out is called by a placeholder. It comes from two places: a failed call, and
an answer that gives no name. The first one stays in memory. The second one is a name like any other: it is
written to the store, and stands there for as long as it is fresh (`nameless_answer_is_stored`). So the rows
behind a run that hold a placeholder are those of the users for whom the service gave none but that
(`placeholder_stored_iff`).

## Contents
- `Wire.User.Nameless`, `displayName_eq_unknownUser_iff`: answers that give no name.
- `read_userInfo_of_no_user`: a response without a user is such an answer.
- `Standing.placeholder_iff`: what has become of a user whose row holds the placeholder.
- `nameless_answer_is_stored`, `placeholder_stored_iff`: which rows hold a placeholder.
-/

namespace TeamChat

open Remote (ApiError Client Response Transport)
open Directory (Row)

/-! ## Answers that give no name -/

theorem unknownUser_ne_empty (id : String) : unknownUser id ≠ "" := by
  intro h
  have hl := congrArg String.length h
  simp [unknownUser, String.length_append] at hl

/-- A user whose names give nothing but the placeholder: they are empty, or it is written in them. -/
def Wire.User.Nameless (u : Wire.User) (id : String) : Prop :=
  u.name = unknownUser id ∨ u.name = "" ∧ (u.realName = "" ∨ u.realName = unknownUser id)

theorem displayName_eq_unknownUser_iff {u : Wire.User} {id : String} :
    u.displayName id = unknownUser id ↔ u.Nameless id := by
  have hne := unknownUser_ne_empty id
  unfold Wire.User.displayName Wire.User.Nameless
  by_cases hn : u.name = ""
  · by_cases hr : u.realName = ""
    · simp [hn, hr]
    · simp [hn, hr, hne.symm]
  · simp [hn]

namespace Remote

/-- A response that is accepted and says nothing about a user is read as a user without names. -/
theorem read_userInfo_of_no_user {k : Client} {user : String} {response : Response} {v : Json}
    (hs : ¬ (400 ≤ response.status ∧ response.status < 600)) (hb : Json.parse? response.body = some v)
    (ho : (v.get? "ok").bind Json.flag? = some true) (hu : v.get? "user" = none ∨ v.get? "user" = some .null) :
    k.read (.userInfo user) response = .ok {} := by
  have ha : accepted (Call.userInfo user).method v = .ok v := by
    unfold accepted
    rw [ho]
    rfl
  unfold Client.read
  rw [if_neg hs, hb]
  simp only [ha, Call.reply, valueOr]
  rcases hu with hu | hu
  · rw [hu]
  · rw [hu]

end Remote

namespace Session

variable {r : Remote} {w : World} {user : String} {row : Option Row}

/-! ## Rows behind look-ups -/

/-- **Whose row holds the placeholder**: if it did not at first, the service was asked and gave no name. -/
theorem Standing.placeholder_iff (h : Standing r row user w) (hrow : ∀ x ∈ row, x.name ≠ unknownUser user) :
    (∃ x, w.directory.row? user = some x ∧ x.name = unknownUser user) ↔
      ∃ u, AskedOnce r user w.trace (.ok u) ∧ u.Nameless user := by
  have clean (kept : w.directory.row? user = row) :
      ¬ ∃ x, w.directory.row? user = some x ∧ x.name = unknownUser user :=
    fun ⟨x, hx, hname⟩ => hrow x (kept.symm.trans hx) hname
  have silent (asked : asking user ∉ w.trace) : ¬ ∃ u, AskedOnce r user w.trace (.ok u) ∧ u.Nameless user := by
    exact fun ⟨u, hu, _⟩ => asked hu.mem
  cases h with
  | unseen _ asked kept => exact iff_of_false (clean kept) (silent asked)
  | stored _ _ asked kept => exact iff_of_false (clean kept) (silent asked)
  | refused asked _ kept =>
      refine iff_of_false (clean kept) fun ⟨u, hu, _⟩ => ?_
      exact absurd (asked.unique hu) (by simp)
  | @named u t asked _ written =>
      rw [written]
      constructor
      · rintro ⟨x, hx, hname⟩
        obtain rfl := Option.some.inj hx
        exact ⟨u, asked, displayName_eq_unknownUser_iff.mp hname⟩
      · rintro ⟨u', hu', hn⟩
        obtain rfl := Except.ok.inj (asked.unique hu')
        exact ⟨_, rfl, displayName_eq_unknownUser_iff.mpr hn⟩

/-- The name of a user who is neither in memory nor fresh in the store becomes the row, whatever the name. -/
theorem row?_resolve_of_told {u : Wire.User} (hw : w.directory.Works)
    (hm : w.directory.memory.get? user = none) (hs : w.directory.stored? w.stamp user = none)
    (ht : told r w user = .ok u) :
    (after (resolve user) r w).directory.row? user = some ⟨u.displayName user, w.stamp⟩ := by
  have hf : w.directory.find w.stamp user = (none, w.directory.missed w.stamp user) := by
    simp only [Directory.find, hm, hs]
  rw [(resolve_of_find_none r w user hf).2]
  show ((w.directory.missed w.stamp user).settle w.stamp user (told r w user)).2.row? user = _
  rw [ht, Directory.row?_settle (Directory.works_missed.mpr hw)]
  exact if_pos rfl

/-! ## Which rows hold a placeholder -/

/-- A network that accepts every call, and says nothing else. -/
def curt : Transport where
  exchange _ := .ok ⟨200, "\x7b\"ok\": true\x7d"⟩
  openStream _ := .error ""

/-- The service over that network. -/
def curtRemote : Remote :=
  (Client.make "xoxp-test" none none).remote curt 1

theorem told_curtRemote (w : World) (user : String) : told curtRemote w user = .ok {} := by
  have hb : Json.parse? "\x7b\"ok\": true\x7d" = some (.obj [("ok", .bool true)]) := by cbv
  have hr : (Client.make "xoxp-test" none none).call curt (.userInfo user) =
      (Client.make "xoxp-test" none none).read (.userInfo user) ⟨200, "\x7b\"ok\": true\x7d"⟩ := by
    have hok : Remote.isHeaderValue "xoxp-test" = true := by decide +kernel
    unfold Client.call Client.request
    simp only [Client.make, hok]
    rfl
  show (Client.make "xoxp-test" none none).call curt (.userInfo user) = _
  rw [hr]
  exact Remote.read_userInfo_of_no_user (by decide) hb rfl (.inl rfl)

/-- **An answer that gives no name is stored**: the row of the user then holds the placeholder, although the
    store was empty. -/
theorem nameless_answer_is_stored :
    ¬ ∀ (r : Remote) (rate : Limiter.Rate) (now : Int) (clock : Nat) (d : Directory),
      (∀ user x, d.row? user = some x → x.name ≠ unknownUser user) →
      ∀ (qs : List Inquiry) (user : String) (x : Row),
        (after (inquireAll qs) r (.start rate now clock d)).directory.row? user = some x →
        x.name ≠ unknownUser user := by
  intro h
  let d : Directory := { store := some ⟨.memory, ⟨1, .table .empty⟩⟩ }
  let w : World := .start (.make .exact 20 1000) 0 0 d
  have hrow : (after (inquireAll [⟨0, 0, "U1"⟩]) curtRemote w).directory.row? "U1" =
      some ⟨unknownUser "U1", (paused 0 0 w).stamp⟩ := by
    have hw : (paused 0 0 w).directory.Works := rfl
    rw [after_inquireAll_cons, after_inquire]
    exact row?_resolve_of_told hw rfl rfl (told_curtRemote _ _)
  exact h curtRemote (.make .exact 20 1000) 0 0 d (fun _ _ hx => nomatch hx) [⟨0, 0, "U1"⟩] "U1" _ hrow rfl

/-- **Which rows hold a placeholder** behind a run, if none did at first: those of the users whom the service
    was asked about and for whom it gave no name, if the store works. A call that fails puts none there. -/
theorem placeholder_stored_iff (r : Remote) (rate : Limiter.Rate) (now : Int) (clock : Nat) {d : Directory}
    (hrows : ∀ user x, d.row? user = some x → x.name ≠ unknownUser user) (qs : List Inquiry) (user : String) :
    let w' := after (inquireAll qs) r (.start rate now clock d)
    (∃ x, w'.directory.row? user = some x ∧ x.name = unknownUser user) ↔
      d.Works ∧ ∃ u, AskedOnce r user w'.trace (.ok u) ∧ u.Nameless user := by
  intro w'
  by_cases hw : d.Works
  · rw [iff_true_intro hw, true_and]
    cases hm : d.memory.get? user with
    | none =>
        have standing : Standing r (d.row? user) user w' :=
          standing_inquireAll (w := .start rate now clock d) (.unseen hm List.not_mem_nil rfl) hw qs
        exact standing.placeholder_iff (hrows user)
    | some name =>
        -- a name that is in memory from the start is never asked for
        obtain ⟨_, kept, steps, trace, asked⟩ : Untouched user (.start rate now clock d) w' :=
          untouched_inquireAll qs hw (.inr ⟨name, hm⟩)
        refine iff_of_false ?_ ?_
        · rintro ⟨x, hx, hname⟩
          exact hrows user x (kept.symm.trans hx) hname
        · rintro ⟨u, hu, _⟩
          have run : w'.trace = steps := trace
          exact asked (run ▸ hu.mem)
  · have hw' : ¬ w'.directory.Works := mt (works_inquireAll qs).mp hw
    refine iff_of_false ?_ fun h => hw h.1
    rintro ⟨x, hx, _⟩
    rw [Directory.row?_eq_none hw'] at hx
    exact nomatch hx

/-- A store that knows one name. -/
def bobOnly : Directory :=
  { store := some ⟨.memory, ⟨1, .table (.set .empty "U2" ⟨"bob", 0⟩)⟩⟩ }

/-- Of two users the one without a row gets the placeholder; the other one's row is fresh, and stays. -/
theorem placeholder_beside_bob :
    let w' := after (inquireAll [⟨0, 0, "U1"⟩, ⟨0, 0, "U2"⟩, ⟨5, 700000, "U1"⟩]) curtRemote
      (.start (.make .exact 20 1000) 0 0 bobOnly)
    (∀ user x, bobOnly.row? user = some x → x.name ≠ unknownUser user) ∧
      (∃ x, w'.directory.row? "U1" = some x ∧ x.name = unknownUser "U1") ∧
      ¬ ∃ x, w'.directory.row? "U2" = some x ∧ x.name = unknownUser "U2" := by
  intro w'
  have clean : ∀ user x, bobOnly.row? user = some x → x.name ≠ unknownUser user := by
    intro user x hx
    have hrow : bobOnly.row? user = (Register.set .empty "U2" ⟨"bob", 0⟩).get? user := rfl
    rw [hrow, Register.get?_set] at hx
    split at hx
    · next hu =>
        obtain rfl := Option.some.inj hx
        rw [hu]
        decide
    · exact nomatch hx
  have stored (user : String) := placeholder_stored_iff curtRemote (.make .exact 20 1000) 0 0 clean
    [⟨0, 0, "U1"⟩, ⟨0, 0, "U2"⟩, ⟨5, 700000, "U1"⟩] user
  have trace : w'.trace = [.acquire, asking "U1"] := by decide +kernel
  refine ⟨clean, (stored "U1").mpr ⟨rfl, {}, ?_, .inr ⟨rfl, .inl rfl⟩⟩, fun h => ?_⟩
  · exact ⟨[.acquire], [], trace, by decide, List.not_mem_nil, told_curtRemote (outset) "U1"⟩
  · obtain ⟨_, u, hu, _⟩ := (stored "U2").mp h
    exact absurd (trace ▸ hu.mem) (by decide)

end Session

end TeamChat
