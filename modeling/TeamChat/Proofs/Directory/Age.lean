import TeamChat.Directory.Store

/-!
# `Directory.Row.age`: how old a row is

Whether a row is fresh is decided by its age, a difference of two times of 64 bits. Where the age itself fits into
64 bits the difference is exact, and so is freshness; where it does not, there is no answer (`isFreshAt?_eq`). By a
clock and with a time from 1970 or later every age fits (`fits_of_nonneg`).

## Contents
- `Row.age`, `Fits`, `isFresh`: the age of a row, and what is to be known of it.
- `checkedSub_eq`, `isFreshAt?_eq`: freshness in terms of the age.
- `Database.getFresh_of_none`, `getFresh_of_get?`: what is answered when a fresh row is asked for.
-/

namespace TeamChat.Directory

variable {now : Int64} {row : Row}

/-! ## Ages -/

/-- The age of a row in seconds, negative for one from the future. -/
def Row.age (now : Int64) (row : Row) : Int :=
  now.toInt - row.updatedAt.toInt

/-- An age that 64 bits can hold. -/
def Fits (age : Int) : Prop :=
  Int64.minValue.toInt ≤ age ∧ age ≤ Int64.maxValue.toInt

instance (age : Int) : Decidable (Fits age) :=
  inferInstanceAs (Decidable (_ ∧ _))

/-- A row is fresh that is no older than its time to live. -/
def isFresh (age : Int) : Bool :=
  age ≤ timeToLive.toInt

/-- Clocks and times from 1970 or later are less than 64 bits apart. -/
theorem fits_of_nonneg (hnow : 0 ≤ now) (hrow : 0 ≤ row.updatedAt) : Fits (row.age now) := by
  have hclock := Int64.le_iff_toInt_le.mp hnow
  have hstamp := Int64.le_iff_toInt_le.mp hrow
  have hlast := Int64.toInt_lt now
  have hlast' := Int64.toInt_lt row.updatedAt
  have hmin : Int64.minValue.toInt = -9223372036854775808 := rfl
  have hmax : Int64.maxValue.toInt = 9223372036854775807 := rfl
  rw [Int64.toInt_zero] at hclock hstamp
  unfold Fits Row.age
  omega

/-! ## Freshness -/

/-- A difference that fits is exact. -/
theorem checkedSub_eq (a b : Int64) :
    (checkedSub a b).map Int64.toInt =
      if Fits (a.toInt - b.toInt) then some (a.toInt - b.toInt) else none := by
  show (if Fits (a.toInt - b.toInt) then some (a - b) else none).map Int64.toInt = _
  by_cases hfits : Fits (a.toInt - b.toInt)
  · have hmin : Int64.minValue.toInt = -9223372036854775808 := rfl
    have hmax : Int64.maxValue.toInt = 9223372036854775807 := rfl
    have hexact : (a - b).toInt = a.toInt - b.toInt := by
      rw [Int64.toInt_sub]
      exact Int.bmod_eq_of_le (by have := hfits.1; omega) (by have := hfits.2; omega)
    rw [if_pos hfits, if_pos hfits, Option.map_some, hexact]
  · rw [if_neg hfits, if_neg hfits, Option.map_none]

/-- **Which rows are fresh**, by their age in unbounded integers. -/
theorem isFreshAt?_eq (now : Int64) (row : Row) :
    row.isFreshAt? now = if Fits (row.age now) then some (isFresh (row.age now)) else none := by
  have hage := checkedSub_eq now row.updatedAt
  have hfresh : row.isFreshAt? now = ((checkedSub now row.updatedAt).map Int64.toInt).map isFresh := by
    rw [Option.map_map]
    refine congrArg (Option.map · (checkedSub now row.updatedAt)) (funext fun age => ?_)
    exact decide_eq_decide.mpr Int64.le_iff_toInt_le
  rw [hfresh, hage]
  show (if Fits (row.age now) then some (row.age now) else none).map isFresh = _
  split <;> rfl

/-- Nothing is given out for a user without a row. -/
theorem Database.getFresh_of_none {d : Database} {rows : Register Row} {user : String} (hd : d.rows = .ok rows)
    (hrow : rows.get? user = none) (now : Int64) : d.getFresh now user = .ok none := by
  have hget : d.get user = .ok none := by rw [get, hd, ← hrow]; rfl
  rw [getFresh, hget]

/-- The row that is given out for a user whose row is known: it is kept back once it has expired, and there is no
    answer if its age does not fit. -/
theorem Database.getFresh_of_get? {d : Database} {rows : Register Row} {user : String} (hd : d.rows = .ok rows)
    (hrow : rows.get? user = some row) (now : Int64) :
    d.getFresh now user =
      if Fits (row.age now) then .ok (if isFresh (row.age now) = true then some row else none)
      else .error .overflow := by
  have hget : d.get user = .ok (some row) := by rw [get, hd, ← hrow]; rfl
  rw [getFresh, hget]
  simp only [isFreshAt?_eq]
  by_cases hfits : Fits (row.age now)
  · rw [if_pos hfits, if_pos hfits]
  · rw [if_neg hfits, if_neg hfits]

end TeamChat.Directory
