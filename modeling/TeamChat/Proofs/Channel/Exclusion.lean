import TeamChat.Proofs.Channel.Sidebar

/-!
# `Session.aggregate`: the sidebar without public channels

Public channels are left out in the middle of a pass that also notes which ids and which users it has seen. With them
left out fewer ids are seen, and none but those of public channels. If conversations of one id are all classified
alike, none of these ids is that of any other conversation, so each of the others is due for an entry in both passes or
in neither (`due_without_public`). The passes go in step from there: they look up the same users one after the other
and make the same entries, but for public channels (`gather_without_public`).

## Contents
- `Session.due`, `gather_cons`: the conversations that are due for an entry.
- `Session.inquired`, `after_gather`: the users that a pass looks up.
- `Session.Ahead`, `due_without_public`: what is due if public channels are left out.
- `gather_without_public`, `Channel.arrange_filter`: passes and sidebars without public channels.
- `excluding_public`: leaving public channels out takes away public channels alone.
-/

namespace TeamChat

open Channel (Entry Kind arrange classify listedAs ofKind)
open Wire (Conversation)

namespace Session

variable {kind? : Conversation → Option Kind} {r : Remote} {w : World} {ids users : List String} {c : Conversation}
  {cs : List Conversation}

/-! ## What is due -/

/-- The kind under which a conversation is due for an entry: none if it is not listed, or its id was seen, or it is
    direct and its user was seen. -/
def due (kind? : Conversation → Option Kind) (ids users : List String) (c : Conversation) : Option Kind :=
  (kind? c).filter fun k => c.id ∉ ids ∧ (k = .direct → c.user ∉ users)

theorem due_eq_some_iff {k : Kind} :
    due kind? ids users c = some k ↔ kind? c = some k ∧ c.id ∉ ids ∧ (k = .direct → c.user ∉ users) := by
  rw [due, Option.filter_eq_some_iff, decide_eq_true_iff]

/-- **A pass goes by what is due.** A conversation that is not due is passed over; a direct one gets an entry if its
    user has a name; any other gets one. -/
theorem gather_cons :
    gather kind? ids users (c :: cs) =
      match due kind? ids users c with
      | none => gather kind? ids users cs
      | some .direct => do
        match ← directEntry c with
        | none => gather kind? ids users cs
        | some e => return e :: (← gather kind? (c.id :: ids) (c.user :: users) cs)
      | some k => return Entry.ofConversation c k :: (← gather kind? (c.id :: ids) users cs) := by
  unfold due
  rw [gather]
  cases kind? c with
  | none => rfl
  | some k =>
      simp only [List.contains_iff_mem, Option.filter_some, decide_eq_true_eq]
      by_cases hi : c.id ∈ ids
      · rw [if_pos hi, if_neg fun h => h.1 hi]
      · rw [if_neg hi]
        by_cases hd : k = .direct
        · subst hd
          rw [if_pos rfl]
          by_cases hu : c.user ∈ users
          · rw [if_pos hu, if_neg fun h => h.2 rfl hu]
          · rewrite [if_neg hu, if_pos ⟨hi, fun _ => hu⟩]
            rfl
        · rw [if_neg hd, if_pos ⟨hi, fun h => absurd h hd⟩]
          cases k with
          | direct => exact absurd rfl hd
          | _ => rfl

/-- The users that a pass looks up, one after the other: the other side of each direct conversation that is due. -/
def inquired (kind? : Conversation → Option Kind) (r : Remote) :
    List String → List String → List Conversation → World → List String
  | _, _, [], _ => []
  | ids, users, c :: cs, w =>
    match due kind? ids users c with
    | none => inquired kind? r ids users cs w
    | some .direct =>
      c.user ::
        match value (directEntry c) r w with
        | none => inquired kind? r ids users cs (after (directEntry c) r w)
        | some _ => inquired kind? r (c.id :: ids) (c.user :: users) cs (after (directEntry c) r w)
    | some _ => inquired kind? r (c.id :: ids) users cs w

/-- Looking these users up is all that a pass does to the world. -/
theorem after_gather (kind? : Conversation → Option Kind) (ids users : List String) (cs : List Conversation)
    (r : Remote) (w : World) :
    after (gather kind? ids users cs) r w = lookedUp r (inquired kind? r ids users cs w) w := by
  induction cs generalizing ids users w with
  | nil => rfl
  | cons c rest ih =>
      rw [gather_cons]
      unfold inquired
      split
      · exact ih ids users w
      · rw [lookedUp_cons, ← after_directEntry, after_bind]
        cases value (directEntry c) r w with
        | none => exact ih ids users _
        | some e => exact ih (c.id :: ids) (c.user :: users) _
      · exact ih (c.id :: ids) users w

/-! ## Without public channels -/

section Exclusion

variable {membersOnly : Bool} {ids' : List String}

/-- Conversations of one id are all of one kind, or none of them is listed. -/
def Alike (membersOnly : Bool) (cs : List Conversation) : Prop :=
  ∀ c ∈ cs, ∀ c' ∈ cs, c.id = c'.id → classify membersOnly c = classify membersOnly c'

/-- One pass is ahead of another: it has seen the same ids and besides them only ids that are, among the conversations
    to come, those of public channels. -/
structure Ahead (membersOnly : Bool) (cs : List Conversation) (ids ids' : List String) : Prop where
  seen : ∀ i ∈ ids', i ∈ ids
  besides : ∀ c ∈ cs, c.id ∈ ids → c.id ∉ ids' → classify membersOnly c = some .channel

/-- The same ids count as seen from now on. -/
theorem Ahead.cons (h : Ahead membersOnly (c :: cs) ids ids') (i : String) :
    Ahead membersOnly cs (i :: ids) (i :: ids') where
  seen j hj := by
    rcases List.mem_cons.mp hj with rfl | hj
    · exact List.mem_cons_self
    · exact List.mem_cons_of_mem i (h.seen j hj)
  besides c' hc' hi hn := by
    rw [List.mem_cons, not_or] at hn
    rcases List.mem_cons.mp hi with hi | hi
    · exact absurd hi hn.1
    · exact h.besides c' (List.mem_cons_of_mem c hc') hi hn.2

theorem Ahead.tail (h : Ahead membersOnly (c :: cs) ids ids') : Ahead membersOnly cs ids ids' where
  seen := h.seen
  besides c' hc' := h.besides c' (List.mem_cons_of_mem c hc')

/-- Only the pass that is ahead sees a public channel. -/
theorem Ahead.public (h : Ahead membersOnly (c :: cs) ids ids') (alike : Alike membersOnly (c :: cs))
    (hc : classify membersOnly c = some .channel) : Ahead membersOnly cs (c.id :: ids) ids' where
  seen j hj := List.mem_cons_of_mem c.id (h.seen j hj)
  besides c' hc' hi hn := by
    rcases List.mem_cons.mp hi with hi | hi
    · exact (alike c' (List.mem_cons_of_mem c hc') c List.mem_cons_self hi).trans hc
    · exact h.besides c' (List.mem_cons_of_mem c hc') hi hn

/-- **What is due without public channels** is what is due with them, but for public channels. -/
theorem due_without_public (h : Ahead membersOnly (c :: cs) ids ids') :
    due (listedAs false membersOnly) ids' users c =
      (due (listedAs true membersOnly) ids users c).filter fun k => k ≠ .channel := by
  refine Option.ext fun k => ?_
  rw [Option.filter_eq_some_iff, decide_eq_true_iff, due_eq_some_iff, due_eq_some_iff,
    Channel.listedAs_eq_some_iff, Channel.listedAs_eq_some_iff]
  constructor
  · rintro ⟨⟨hk, hpublic⟩, hi, hu⟩
    have hother : k ≠ .channel := fun h => absurd (hpublic h) (by simp)
    refine ⟨⟨⟨hk, fun _ => rfl⟩, fun hin => ?_, hu⟩, hother⟩
    -- an id that only the other pass has seen is that of a public channel
    exact hother (Option.some.inj (hk.symm.trans (h.besides c List.mem_cons_self hin hi)))
  · rintro ⟨⟨⟨hk, _⟩, hi, hu⟩, hother⟩
    exact ⟨⟨hk, fun h => absurd h hother⟩, fun hin => hi (h.seen c.id hin), hu⟩

/-- **Passes with and without public channels go in step.** The one without them looks up the same users, and its
    entries are those of the other but for public channels. -/
theorem gather_without_public (r : Remote) (cs : List Conversation) (ids ids' users : List String) (w : World)
    (alike : Alike membersOnly cs) (h : Ahead membersOnly cs ids ids') :
    value (gather (listedAs false membersOnly) ids' users cs) r w =
        (value (gather (listedAs true membersOnly) ids users cs) r w).filter (fun e => e.kind ≠ .channel) ∧
      inquired (listedAs false membersOnly) r ids' users cs w =
        inquired (listedAs true membersOnly) r ids users cs w := by
  induction cs generalizing ids ids' users w with
  | nil => exact ⟨rfl, rfl⟩
  | cons c rest ih =>
      have alike' : Alike membersOnly rest := fun a ha b hb =>
        alike a (List.mem_cons_of_mem c ha) b (List.mem_cons_of_mem c hb)
      rw [gather_cons, gather_cons]
      unfold inquired
      rw [due_without_public h]
      cases hdue : due (listedAs true membersOnly) ids users c with
      | none => exact ih ids ids' users w alike' h.tail
      | some k =>
          cases k with
          | channel =>
              have hk := (Channel.listedAs_eq_some_iff.mp (due_eq_some_iff.mp hdue).1).1
              exact ih (c.id :: ids) ids' users w alike' (h.public alike hk)
          | direct =>
              simp only [Option.filter_some, ne_eq, reduceCtorEq, not_false_eq_true, decide_true, if_true, value_bind]
              cases he : value (directEntry c) r w with
              | none =>
                  obtain ⟨hv, hi⟩ := ih ids ids' users (after (directEntry c) r w) alike' h.tail
                  exact ⟨hv, congrArg (c.user :: ·) hi⟩
              | some e =>
                  obtain ⟨hv, hi⟩ := ih (c.id :: ids) (c.id :: ids') (c.user :: users) (after (directEntry c) r w)
                    alike' (h.cons c.id)
                  have hd : e.kind = .direct := (directEntry_some (due_eq_some_iff.mp hdue).1 he).1
                  refine ⟨(congrArg (e :: ·) hv).trans ?_, congrArg (c.user :: ·) hi⟩
                  exact (List.filter_cons_of_pos (p := fun e : Entry => e.kind ≠ .channel) (by simp [hd])).symm
          | _ =>
              -- a group or a conversation of several users
              obtain ⟨hv, hi⟩ := ih (c.id :: ids) (c.id :: ids') users w alike' (h.cons c.id)
              exact ⟨congrArg (Entry.ofConversation c _ :: ·) hv, hi⟩

end Exclusion

end Session

namespace Channel

/-- Entries of some kinds stand in the sidebar as they do in the one for them alone. -/
theorem arrange_filter (p : Kind → Bool) (entries : List Entry) :
    arrange (entries.filter fun e => p e.kind) = (arrange entries).filter fun e => p e.kind := by
  have part (k : Kind) :
      ofKind k (entries.filter fun e => p e.kind) = (ofKind k entries).filter fun e => p e.kind := by
    cases hk : p k with
    | true =>
        have hall : ((ofKind k entries).filter fun e => p e.kind) = ofKind k entries := by
          refine List.filter_eq_self.mpr fun e he => ?_
          rw [(mem_ofKind.mp he).2, hk]
        have hsame : ((entries.filter fun e => p e.kind).filter fun e => e.kind = k) =
            entries.filter fun e => e.kind = k := by
          rw [List.filter_filter]
          refine List.filter_congr fun e _ => ?_
          by_cases he : e.kind = k <;> simp [he, hk]
        rw [hall, ofKind, ofKind, hsame]
    | false =>
        have hnone : ((ofKind k entries).filter fun e => p e.kind) = [] := by
          refine List.filter_eq_nil_iff.mpr fun e he => ?_
          rw [(mem_ofKind.mp he).2, hk]
          simp
        rw [hnone, List.eq_nil_iff_forall_not_mem]
        intro e he
        obtain ⟨hmem, hkind⟩ := mem_ofKind.mp he
        have hp := (List.mem_filter.mp hmem).2
        rw [hkind, hk] at hp
        exact absurd hp (by simp)
  simp only [arrange, List.filter_flatMap, part]

end Channel

namespace Session

/-- **Leaving public channels out takes away public channels, and nothing else.** Let conversations of one id be
    classified alike. Whatever is known or answered about users, the sidebar without public channels is the one with
    them but for their entries, in the same order; the same users are looked up for it, one after the other, and it
    leaves the same world behind. -/
theorem excluding_public (membersOnly : Bool) (cs : List Conversation) (r : Remote) (w : World)
    (alike : Alike membersOnly cs) :
    let all := aggregate true membersOnly cs
    let others := aggregate false membersOnly cs
    let asked := inquired (listedAs true membersOnly) r [] [] cs w
    value others r w = (value all r w).filter (fun e => e.kind ≠ .channel) ∧
      inquired (listedAs false membersOnly) r [] [] cs w = asked ∧
      after all r w = lookedUp r asked w ∧ after others r w = lookedUp r asked w := by
  intro all others asked
  have hstart : Ahead membersOnly cs [] [] := ⟨fun _ hi => hi, fun _ _ hi => absurd hi List.not_mem_nil⟩
  obtain ⟨hv, hi⟩ := gather_without_public r cs [] [] [] w alike hstart
  refine ⟨?_, hi, after_gather _ [] [] cs r w, ?_⟩
  · exact (congrArg arrange hv).trans (Channel.arrange_filter (fun k => k ≠ .channel) _)
  · exact (after_gather _ [] [] cs r w).trans (congrArg (lookedUp r · w) hi)

/-- A listing in which a public channel stands twice, and two direct conversations with the same user. -/
def doubled : List Conversation :=
  [{ id := "C1", name := "lobby", isChannel := true, isMember := true },
   { id := "D1", isDirect := true, user := "U1" },
   { id := "C1", name := "lobby", isChannel := true, isMember := true },
   { id := "D2", isDirect := true, user := "U1" },
   { id := "G1", name := "staff", isGroup := true, isMember := true }]

/-- A service that knows one user. -/
def knowsAlice : Remote where
  answer _
    | .userInfo user =>
      if user = "U1" then .ok { id := user, name := "alice" } else .error (.remote "users.info" "user_not_found")
    | c => .error (.remote c.method "unknown_method")
  openStream _ := .error (.http .builder)
  horizon := 1

/-- Without public channels the group and alice are left, who was looked up once. -/
theorem excluding_public_doubled :
    Alike true doubled ∧
    value (aggregate false true doubled) knowsAlice outset =
      [Entry.ofConversation { id := "G1", name := "staff", isGroup := true, isMember := true } .group,
       { id := "D1", name := "alice", userId := "U1", presence := .away, kind := .direct }] ∧
    after (aggregate false true doubled) knowsAlice outset = lookedUp knowsAlice ["U1"] outset := by
  have alike : Alike true doubled := by unfold Alike; decide
  obtain ⟨hv, _, _, ha⟩ := excluding_public true doubled knowsAlice outset alike
  have hall : value (aggregate true true doubled) knowsAlice outset =
      [Entry.ofConversation { id := "C1", name := "lobby", isChannel := true, isMember := true } .channel,
       Entry.ofConversation { id := "G1", name := "staff", isGroup := true, isMember := true } .group,
       { id := "D1", name := "alice", userId := "U1", presence := .away, kind := .direct }] := by
    decide +kernel
  have hasked : inquired (listedAs true true) knowsAlice [] [] doubled outset = ["U1"] := by decide +kernel
  refine ⟨alike, ?_, ?_⟩
  · rw [hv, hall]
    decide
  · rw [ha, hasked]

end Session

end TeamChat
