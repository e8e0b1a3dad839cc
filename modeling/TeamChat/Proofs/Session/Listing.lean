import TeamChat.Proofs.Session.Along

/-!
# `Session.partsFrom`: a listing, part by part

A listing is read part by part, up to the last one or to the first that fails. What the service answers on the
way (`partsFrom`) says all about the outcome: the items of the parts, one part behind the other, or the failure
(`value_collectFrom`). Two readings that get the same parts come to the same.

## Contents
- `Remote.join`: what the parts of a listing come to.
- `Session.partsFrom`, `Session.parts`: the parts that the service answers with.
- `value_collectFrom`, `value_collect`: a listing is what its parts come to.
-/

namespace TeamChat

open Remote (ApiError Page)

/-- The items of all parts, or the first failure. Parts that end without a last one are given up as lost. -/
def Remote.join {α : Type} : List (Except ApiError (Page α)) → Except ApiError (List α)
  | [] => .error Session.endless
  | .error e :: _ => .error e
  | .ok page :: rest =>
    if page.isLast then .ok page.items else (Remote.join rest).map (page.items ++ ·)

namespace Session

variable {α : Type}

/-- What the service answers while a listing is read: a part after the other, up to the last one or to a
    failure, and no more than `fuel` of them. -/
def partsFrom (fetch : String → Session (Except ApiError (Page α))) :
    Nat → String → Session (List (Except ApiError (Page α)))
  | 0, _ => return []
  | fuel + 1, cursor => do
    match ← fetch cursor with
    | .error e => return [.error e]
    | .ok page =>
      if page.isLast then return [.ok page]
      else return .ok page :: (← partsFrom fetch fuel page.next)

/-- What the service answers while a listing is read from the start. -/
def parts (fetch : String → Session (Except ApiError (Page α))) :
    Session (List (Except ApiError (Page α))) := fun remote =>
  partsFrom fetch remote.horizon "" remote

theorem value_collectFrom (fetch : String → Session (Except ApiError (Page α))) (fuel : Nat) (cursor : String)
    (r : Remote) (w : World) :
    value (collectFrom fetch fuel cursor) r w = Remote.join (value (partsFrom fetch fuel cursor) r w) := by
  induction fuel generalizing cursor w with
  | zero => rfl
  | succ fuel ih =>
      unfold collectFrom partsFrom
      rw [value_bind, value_bind]
      cases value (fetch cursor) r w with
      | error e => rfl
      | ok page =>
          simp only []
          by_cases hl : page.isLast = true
          · rw [if_pos hl, if_pos hl]
            simp [Remote.join, hl]
          · rw [if_neg hl, if_neg hl, value_bind, value_bind, value_pure, ih]
            simp only [Remote.join, if_neg hl]
            cases Remote.join (value (partsFrom fetch fuel page.next) r (after (fetch cursor) r w)) with
            | error e => rfl
            | ok items => rfl

/-- **A listing is what its parts come to**, whatever is fetched and however it is answered. -/
theorem value_collect (fetch : String → Session (Except ApiError (Page α))) (r : Remote) (w : World) :
    value (collect fetch) r w = Remote.join (value (parts fetch) r w) :=
  value_collectFrom fetch r.horizon "" r w

end Session

end TeamChat
