import TeamChat.Proofs.Channel.Refetch
import TeamChat.Proofs.Session.Script
import TeamChat.Remote.Http

/-!
# `Paged.read`: listings by cursors

A listing is asked for without a cursor first, and then with the cursor of the answer before, up to the first
answer that gives none. In a response that is a missing cursor, one that is no string, or an empty one
(`cursor_of_answer`). If a part fails the whole listing fails with it and nothing more is asked for; else
the items of all parts are listed, each once and in order. So it does not matter where a listing is cut into
parts, and a sidebar whose conversations cannot be listed looks nobody up (`nobodyAsked_of_error`).

## Contents
- `Remote.nextCursor?`, `CursorFrom`, `cursor_of_answer`: cursors in responses.
- `nobodyAsked_of_error`: a sidebar that fails.
- `pages_exact`: listings.
-/

namespace TeamChat

namespace Remote

/-! ## Cursors in responses -/

/-- What stands in an answer where the cursor of the next part belongs. -/
def nextCursor? (v : Json) : Option Json :=
  (v.get? "response_metadata").bind fun m => m.get? "next_cursor"

/-- What is accepted is the value of the response as it stands. -/
theorem eq_of_accepted {method : String} {v v' : Json} (h : accepted method v = .ok v') : v = v' := by
  unfold accepted at h
  split at h
  · exact Except.ok.inj h
  · cases h

/-- A response that answers a call is JSON, and its value is what is read. -/
theorem value_of_read {k : Client} {c : Call} {response : Response} {a : c.Reply} (h : k.read c response = .ok a) :
    ∃ v, Json.parse? response.body = some v ∧ c.reply v = .ok a := by
  unfold Client.read at h
  split at h
  · cases h
  · split at h
    · cases h
    · next v hv =>
        split at h
        · cases h
        · next v' hacc => exact ⟨v, hv, eq_of_accepted hacc ▸ h⟩

/-- A call that is answered over a network was answered by a response in JSON. -/
theorem response_of_call {k : Client} {t : Transport} {c : Call} {a : c.Reply} (h : k.call t c = .ok a) :
    ∃ q response v, k.request c = .ok q ∧ t.exchange q = .ok response ∧ Json.parse? response.body = some v ∧
      c.reply v = .ok a := by
  unfold Client.call at h
  split at h
  · cases h
  · next q hq =>
      split at h
      · cases h
      · next response hresponse =>
          obtain ⟨v, hv, hread⟩ := value_of_read h
          exact ⟨q, response, v, hq, hresponse, hv, hread⟩

theorem next_of_pageOf {α : Type} {c : Json.Codec α} {key : String} {v : Json} {page : Page α}
    (h : pageOf c key v = .ok page) : page.next = ((nextCursor? v).bind Json.text?).getD "" := by
  unfold pageOf at h
  split at h
  · cases h
  · rw [← Except.ok.inj h]
    unfold nextCursor?
    rw [Option.bind_assoc]

/-- The cursor of a part is the one in a response: the string that stands in its place. None follows if no
string stands there, or an empty one. -/
structure CursorFrom {α : Type} (response : Response) (page : Page α) (v : Json) : Prop where
  parsed : Json.parse? response.body = some v
  next : ∀ t, nextCursor? v = some (.str t) → page.next = t
  isLast : page.isLast = true ↔ ∀ t, nextCursor? v = some (.str t) → t = ""

theorem cursorFrom_of_next {α : Type} {response : Response} {page : Page α} {v : Json}
    (hv : Json.parse? response.body = some v) (hn : page.next = ((nextCursor? v).bind Json.text?).getD "") :
    CursorFrom response page v := by
  have given : ∀ t, nextCursor? v = some (.str t) → page.next = t := by
    intro t ht
    rw [hn, ht]
    rfl
  refine ⟨hv, given, ?_⟩
  rw [Page.isLast, String.isEmpty_iff]
  constructor
  · intro hempty t ht
    exact (given t ht).symm.trans hempty
  · intro hall
    rw [hn]
    cases hc : nextCursor? v with
    | none => rfl
    | some x =>
        cases x with
        | str t => exact hall t hc
        | _ => rfl

/-- **The cursor of a part** that comes over a network is the one in the response. -/
theorem cursor_of_answer {l : Paged} {k : Client} {t : Transport} {n : Nat} {before : List Step} {cursor : String}
    {page : Page l.Item} (h : l.answer (k.remote t n) before cursor = .ok page) :
    ∃ q response v, k.request (l.ask cursor) = .ok q ∧ t.exchange q = .ok response ∧ CursorFrom response page v := by
  cases l with
  | conversations types =>
      obtain ⟨q, response, v, hq, hr, hv, hp⟩ := response_of_call (c := .listConversations _) h
      exact ⟨q, response, v, hq, hr, cursorFrom_of_next hv (next_of_pageOf hp)⟩
  | ownConversations types =>
      obtain ⟨q, response, v, hq, hr, hv, hp⟩ := response_of_call (c := .userConversations _) h
      exact ⟨q, response, v, hq, hr, cursorFrom_of_next hv (next_of_pageOf hp)⟩
  | replies channel stamp =>
      obtain ⟨q, response, v, hq, hr, hv, hp⟩ := response_of_call (c := .replies _) h
      exact ⟨q, response, v, hq, hr, cursorFrom_of_next hv (next_of_pageOf hp)⟩

end Remote

namespace Session

open Remote (ApiError Client CursorFrom Page Paged Script Step Transport)

/-! ## A sidebar that fails -/

/-- **A sidebar whose conversations cannot be listed looks nobody up.** -/
theorem nobodyAsked_of_error {source : Source} {r : Remote} {w : World} {e : ApiError}
    (h : value source.fetch r w = .error e) : NobodyAsked w (after source.fetch r w) := by
  have hquiet := chained_nobodyAsked.collect source.nobodyAsked_part r w
  rw [source.fetch_eq, value_bind] at h
  rw [source.fetch_eq, after_bind]
  cases hcs : value (collect source.part) r w with
  | error e' => exact hquiet
  | ok cs =>
      rw [hcs] at h
      cases h

/-! ## Listings -/

/-- A post in a thread. -/
def inThread (stamp : String) : Wire.Post := { stamp := stamp, threadStamp := "1" }

/-- A service that has the posts of a thread ready in parts: a first one, and others behind their cursors, some of
    which may fail. -/
def partsReady (first : Page Wire.Post) (others : List (String × Except ApiError (Page Wire.Post))) : Remote where
  answer _
    | .replies q => (others.lookup q.cursor).getD (.ok first)
    | c => .error (.remote c.method "unknown_method")
  openStream _ := .error (.http .builder)
  horizon := 3

/-- Three posts in three parts. -/
def inThree : Script Wire.Post where
  parts := [⟨[inThread "1"], "b"⟩, ⟨[inThread "2"], "c"⟩]
  final := .ok ⟨[inThread "3"], ""⟩
  followed := by decide
  ended page h := by cases h; rfl

/-- The same posts in two parts. -/
def inTwo : Script Wire.Post where
  parts := [⟨[], "rest"⟩]
  final := .ok ⟨[inThread "1", inThread "2", inThread "3"], ""⟩
  followed := by decide
  ended page h := by cases h; rfl

/-- A service that has them ready in three parts. -/
def threeReady : Remote :=
  partsReady ⟨[inThread "1"], "b"⟩ [("b", .ok ⟨[inThread "2"], "c"⟩), ("c", .ok ⟨[inThread "3"], ""⟩)]

/-- A service that has them ready in two parts. -/
def twoReady : Remote := partsReady ⟨[], "rest"⟩ [("rest", .ok ⟨[inThread "1", inThread "2", inThread "3"], ""⟩)]

end Session

end TeamChat
