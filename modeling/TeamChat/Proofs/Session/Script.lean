import TeamChat.Proofs.Session.Along

/-!
# `Remote.Script`: listings answered by a script

A listing is read request by request. What the service answers on the way is a script: parts that others
follow, and at the end a last part or a failure (`Script`). If the service answers the requests by a script,
each request with the cursor that the answer before gave, then exactly these requests are made
(`read_of_plays`), and the listing is what the script comes to: the items of its parts, one part behind
the other, or the failure.

## Contents
- `Remote.Script`: a script, its answers, the cursors of its requests, and what it comes to.
- `Remote.Paged`: the listings that are read in this way, and the requests that are made for them.
- `Paged.Plays`: a service that answers by a script.
- `Paged.read`, `Paged.requested`: reading, and the world behind some requests.
- `read_of_plays`: what is requested, and what comes of it.
-/

namespace TeamChat

open Remote (ApiError Call ListingType Page Step)

namespace Remote

/-! ## Scripts -/

/-- What a service answers to the requests of a listing, up to the answer that ends it. -/
structure Script (α : Type) where
  /-- The parts that others follow. -/
  parts : List (Page α)
  /-- The last part, or a failure. -/
  final : Except ApiError (Page α)
  followed : ∀ page ∈ parts, page.isLast = false
  ended : ∀ page, final = .ok page → page.isLast = true

namespace Script

variable {α : Type}

/-- All answers, in order. -/
def answers (s : Script α) : List (Except ApiError (Page α)) :=
  s.parts.map .ok ++ [s.final]

/-- The cursors of the requests: none at first, and then the one that the answer before gave. -/
def cursors (s : Script α) : List String :=
  "" :: s.parts.map (·.next)

/-- The items of all parts, or the failure. -/
def outcome (s : Script α) : Except ApiError (List α) :=
  s.final.map fun last => s.parts.flatMap (·.items) ++ last.items

theorem length_answers (s : Script α) : s.answers.length = s.parts.length + 1 := by
  rw [answers, List.length_append, List.length_map, List.length_singleton]

/-- There is a request for each answer. -/
theorem length_cursors (s : Script α) : s.cursors.length = s.answers.length := by
  rw [length_answers, cursors, List.length_cons, List.length_map]

end Script

/-! ## Listings -/

/-- The listings that are read part by part: the conversations of the workspace, those that the user belongs
to, and the posts in a thread. -/
inductive Paged
  | conversations (types : List ListingType)
  | ownConversations (types : List ListingType)
  | replies (channel stamp : String)
deriving DecidableEq, Repr

namespace Paged

/-- What is listed. -/
@[reducible] def Item : Paged → Type
  | .conversations _ => Wire.Conversation
  | .ownConversations _ => Wire.Conversation
  | .replies _ _ => Wire.Post

/-- The call for the part behind a cursor. -/
def ask : Paged → String → Call
  | .conversations types, cursor => .listConversations { types := types, cursor := cursor }
  | .ownConversations types, cursor => .userConversations { types := types, cursor := cursor }
  | .replies channel stamp, cursor => .replies { channel := channel, stamp := stamp, cursor := cursor }

/-- How the service answers this call, given what was done before. -/
def answer (r : Remote) (before : List Step) : (l : Paged) → String → Except ApiError (Page l.Item)
  | .conversations types, cursor => r.answer before (.listConversations { types := types, cursor := cursor })
  | .ownConversations types, cursor => r.answer before (.userConversations { types := types, cursor := cursor })
  | .replies channel stamp, cursor =>
    r.answer before (.replies { channel := channel, stamp := stamp, cursor := cursor })

/-- What is done for some requests: a token is taken for each, and the call is made. -/
def requests (l : Paged) (cursors : List String) : List Step :=
  cursors.flatMap fun cursor => [.acquire, .call (l.ask cursor)]

/-- The service answers by a script: a request with the cursor gets the first answer, a request with the
cursor that this one gives gets the next, and so on up to the final answer. -/
def PlaysFrom (l : Paged) (r : Remote) (final : Except ApiError (Page l.Item)) :
    List Step → String → List (Page l.Item) → Prop
  | before, cursor, [] => l.answer r (before ++ [.acquire]) cursor = final
  | before, cursor, page :: rest =>
    l.answer r (before ++ [.acquire]) cursor = .ok page ∧
      PlaysFrom l r final (before ++ [.acquire, .call (l.ask cursor)]) page.next rest

/-- The service answers the requests of a listing by a script, if these are the next that are made. -/
def Plays (l : Paged) (r : Remote) (before : List Step) (s : Script l.Item) : Prop :=
  l.PlaysFrom r s.final before "" s.parts

/-! ## Reading -/

open Session (after call called collect collectFrom value)

/-- A part of the listing. -/
def part : (l : Paged) → String → Session (Except ApiError (Page l.Item))
  | .conversations types, cursor => call (.listConversations { types := types, cursor := cursor })
  | .ownConversations types, cursor => call (.userConversations { types := types, cursor := cursor })
  | .replies channel stamp, cursor => call (.replies { channel := channel, stamp := stamp, cursor := cursor })

/-- The whole listing. -/
def read : (l : Paged) → Session (Except ApiError (List l.Item))
  | .conversations types => Session.listConversations types
  | .ownConversations types => Session.listOwnConversations types
  | .replies channel stamp => Session.fetchReplies channel stamp

/-- The world in which some requests were made, one after the other. -/
def requested (l : Paged) (cursors : List String) (w : World) : World :=
  cursors.foldl (fun w cursor => called (l.ask cursor) w) w

section Reading

variable (l : Paged) (r : Remote) (w : World) (cursor : String) (cursors : List String)

theorem read_eq : l.read = collect l.part := by
  cases l <;> rfl

theorem value_part : value (l.part cursor) r w = l.answer r (w.trace ++ [.acquire]) cursor := by
  cases l <;> exact Session.value_call r w _

theorem after_part : after (l.part cursor) r w = called (l.ask cursor) w := by
  cases l <;> rfl

theorem requested_cons : l.requested (cursor :: cursors) w = l.requested cursors (called (l.ask cursor) w) := rfl

theorem trace_requested : (l.requested cursors w).trace = w.trace ++ l.requests cursors := by
  induction cursors generalizing w with
  | nil => exact (List.append_nil _).symm
  | cons cursor rest ih =>
      rw [requested_cons, ih, Session.trace_called, List.append_assoc]
      rfl

theorem directory_requested : (l.requested cursors w).directory = w.directory := by
  induction cursors generalizing w with
  | nil => rfl
  | cons cursor rest ih => rw [requested_cons, ih, Session.directory_called]

theorem threads_requested : (l.requested cursors w).threads = w.threads := by
  induction cursors generalizing w with
  | nil => rfl
  | cons cursor rest ih => rw [requested_cons, ih, Session.threads_called]

end Reading

/-- Reading on from some cursor, while the service answers by what is left of a script. -/
theorem collectFrom_of_playsFrom {l : Paged} {r : Remote} {final : Except ApiError (Page l.Item)}
    (ended : ∀ page, final = .ok page → page.isLast = true) {parts : List (Page l.Item)}
    (followed : ∀ page ∈ parts, page.isLast = false) {fuel : Nat} (hfuel : parts.length < fuel) {w : World}
    {cursor : String} (hp : l.PlaysFrom r final w.trace cursor parts) :
    value (collectFrom l.part fuel cursor) r w =
        final.map (fun last => parts.flatMap (·.items) ++ last.items) ∧
      after (collectFrom l.part fuel cursor) r w = l.requested (cursor :: parts.map (·.next)) w := by
  induction parts generalizing fuel w cursor with
  | nil =>
      obtain ⟨fuel, rfl⟩ : ∃ n, fuel = n + 1 := ⟨fuel - 1, by omega⟩
      have hv : value (l.part cursor) r w = final := (l.value_part r w cursor).trans hp
      unfold collectFrom
      rw [Session.value_bind, Session.after_bind, l.after_part, hv]
      cases final with
      | error e => exact ⟨rfl, rfl⟩
      | ok last =>
          simp only [ended last rfl, if_true]
          exact ⟨rfl, rfl⟩
  | cons page rest ih =>
      obtain ⟨fuel, rfl⟩ : ∃ n, fuel = n + 1 := ⟨fuel - 1, by omega⟩
      obtain ⟨hfirst, hrest⟩ := hp
      have hv : value (l.part cursor) r w = .ok page := (l.value_part r w cursor).trans hfirst
      have hl : page.isLast = false := followed page List.mem_cons_self
      -- the rest of the script is played to the world in which the first request was made
      have hplays : l.PlaysFrom r final (called (l.ask cursor) w).trace page.next rest := by
        rw [Session.trace_called]
        exact hrest
      obtain ⟨hvalue, hafter⟩ := ih (fun p hp => followed p (List.mem_cons_of_mem page hp))
        (Nat.lt_of_succ_lt_succ hfuel) hplays
      unfold collectFrom
      rw [Session.value_bind, Session.after_bind, l.after_part, hv]
      simp only [hl, Bool.false_eq_true, if_false]
      rw [Session.value_bind, Session.after_bind, hvalue, hafter]
      cases final with
      | error e => exact ⟨rfl, rfl⟩
      | ok last => exact ⟨congrArg Except.ok (List.append_assoc ..).symm, rfl⟩

/-- **A listing that is answered by a script**: the requests are those of the script, and the listing is what
    the script comes to. The service is waited for at least as long as the script is. -/
theorem read_of_plays {l : Paged} {r : Remote} {w : World} {s : Script l.Item}
    (hp : l.Plays r w.trace s) (hh : s.answers.length ≤ r.horizon) :
    value l.read r w = s.outcome ∧ after l.read r w = l.requested s.cursors w := by
  have hfuel : s.parts.length < r.horizon := by
    rw [s.length_answers] at hh
    omega
  rw [l.read_eq]
  exact collectFrom_of_playsFrom s.ended s.followed hfuel hp

end Paged

end Remote

end TeamChat
