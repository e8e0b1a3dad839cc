import TeamChat.Directory
import TeamChat.Proofs.Directory.Age

/-!
# `Directory.row?`: the rows behind a directory

A directory that looks a name up reads its store, and writes to it in one case only: when the service has
answered. Here stands what that does to the row of each user, for a store that works. A store that does not is
passed over, and is left as it is. Rows from 1970 or later stop no look-up.

## Contents
- `Directory.rows?`, `row?`, `Works`: the rows of a store that has its table.
- `stored?_eq`: a name in the store is that of a fresh row.
- `overflowsAt_iff`, `SinceEpoch`: which rows stop a look-up.
- `row?_settle`, `works_settle`, `sinceEpoch_settle`: the rows behind an answer.
-/

namespace TeamChat.Directory

open Remote (ApiError)

variable {d : Directory} {now : Int64} {user other name : String}

/-- The rows of the store, if there is one that has its table. -/
def rows? (d : Directory) : Option (Register Row) :=
  d.store.bind fun s => s.database.rows.toOption

/-- The row of a user, however old. -/
def row? (d : Directory) (user : String) : Option Row :=
  d.rows?.bind fun rows => rows.get? user

/-- There is a store, and it can be read and written. -/
def Works (d : Directory) : Prop :=
  d.rows?.isSome = true

/-! ## Reading -/

/-- A name that is found in the store is that of a fresh row. -/
theorem stored?_eq (now : Int64) (user : String) (d : Directory) :
    d.stored? now user = ((d.row? user).filter fun x => x.isFreshAt? now = some true).map (·.name) := by
  unfold stored? row? rows?
  cases d.store with
  | none => rfl
  | some s =>
      simp only [Database.getFresh, Database.get, Option.bind_some]
      cases s.database.rows with
      | error e => rfl
      | ok rows =>
          simp only [Except.map, Except.toOption, Option.bind_some]
          cases rows.get? user with
          | none => rfl
          | some x =>
              rw [Option.filter_some]
              cases hx : x.isFreshAt? now with
              | none => simp [hx]
              | some fresh => cases fresh <;> simp [hx]

theorem works_missed : (d.missed now user).Works ↔ d.Works := .rfl

/-- **A look-up is stopped** by a row whose age does not fit into 64 bits, and by nothing else. -/
theorem overflowsAt_iff :
    d.overflowsAt now user = true ↔ ∃ x, d.row? user = some x ∧ ¬Fits (x.age now) := by
  unfold overflowsAt row? rows?
  cases hs : d.store with
  | none => simp
  | some s =>
      simp only [Option.bind_some]
      cases hr : s.database.rows with
      | error e => simp [Database.getFresh, Database.get, hr, Except.map, Except.toOption]
      | ok rows =>
          simp only [Except.toOption, Option.bind_some]
          cases hx : rows.get? user with
          | none => simp [Database.getFresh_of_none hr hx]
          | some x =>
              rw [Database.getFresh_of_get? hr hx]
              by_cases hfits : Fits (x.age now)
              · simp [hfits]
              · simp [hfits]

/-- All rows are from 1970 or later. -/
def SinceEpoch (d : Directory) : Prop :=
  ∀ user x, d.row? user = some x → 0 ≤ x.updatedAt

theorem not_overflowsAt (hd : d.SinceEpoch) (hnow : 0 ≤ now) (user : String) : d.overflowsAt now user = false := by
  rw [← Bool.not_eq_true, overflowsAt_iff]
  rintro ⟨x, hx, hfits⟩
  exact hfits (fits_of_nonneg hnow (hd user x hx))

/-! ## Writing -/

/-- A name that is written becomes the row of its user. -/
theorem rows?_persist : (d.persist now user name).rows? = d.rows?.map fun rows => rows.set user ⟨name, now⟩ := by
  unfold persist rows?
  cases hs : d.store with
  | none => simp [hs]
  | some s =>
      simp only [Store.update, Database.upsert, Option.bind_some]
      cases hr : s.database.rows with
      | error e => simp [Except.map, hs, hr, Except.toOption]
      | ok rows => simp [Except.map, Database.rows, Except.toOption]

theorem rows?_settle_ok (u : Wire.User) :
    (d.settle now user (.ok u)).2.rows? = d.rows?.map fun rows => rows.set user ⟨u.displayName user, now⟩ :=
  rows?_persist

/-- **The rows behind an answer.** A user who has a name gets a row that holds it; all other rows, and every
    row behind a failure, are as before. -/
theorem row?_settle (hw : d.Works) (answer : Except ApiError Wire.User) (other : String) :
    (d.settle now user answer).2.row? other =
      match answer with
      | .ok u => if other = user then some ⟨u.displayName user, now⟩ else d.row? other
      | .error _ => d.row? other := by
  cases answer with
  | error e => rfl
  | ok u =>
      obtain ⟨rows, hr⟩ := Option.isSome_iff_exists.mp hw
      simp only [row?, rows?_settle_ok, hr, Option.map_some, Option.bind_some, Register.get?_set]

/-- No answer mends a store, or breaks it. -/
theorem works_settle (answer : Except ApiError Wire.User) : (d.settle now user answer).2.Works ↔ d.Works := by
  cases answer with
  | error e => exact .rfl
  | ok u =>
      unfold Works
      rw [rows?_settle_ok, Option.isSome_map]

theorem row?_eq_none (hw : ¬ d.Works) (user : String) : d.row? user = none := by
  have hr : d.rows? = none := by simpa [Works] using hw
  rw [row?, hr, Option.bind_none]

/-- A row that is written by a clock from 1970 on is from 1970 or later. -/
theorem sinceEpoch_settle (hd : d.SinceEpoch) (hnow : 0 ≤ now) (answer : Except ApiError Wire.User) :
    (d.settle now user answer).2.SinceEpoch := by
  intro other x hx
  by_cases hw : d.Works
  · rw [row?_settle hw] at hx
    cases answer with
    | error e => exact hd other x hx
    | ok u =>
        by_cases ho : other = user
        · obtain rfl := Option.some.inj ((if_pos ho).symm.trans hx)
          exact hnow
        · exact hd other x ((if_neg ho).symm.trans hx)
  · rw [row?_eq_none (mt (works_settle answer).mp hw)] at hx
    cases hx

end TeamChat.Directory
