import Mathlib.Algebra.Group.Int.Defs
import TeamChat.Proofs.Directory.Age

/-!
# `Directory.Freshness`: which rows are given out as fresh

A table takes rows with any stamp, and which of them are given out when fresh ones are asked for is decided by their
age alone. By a clock from 1970 on the age fits into 64 bits for every stamp from the future, and for every one from the
past but the very oldest: only an age of `2 ^ 63` seconds or more does not (`fits_iff`), and there the program stops
instead of answering (`oldest_row_overflows`). All other rows are given out exactly as long as they live, so none
outlives a newer one (`getFresh_written`).

## Contents
- `fits_iff`, `age_le_age`: ages by a clock from 1970 on.
- `Database.upsertAll`, `lastRow?`, `rows_upsertAll`: rows that were written, and which of them stand in the table.
- `Database.oldest_row_overflows`, `getFresh_written`: which of them are given out.
-/

namespace TeamChat.Directory

variable {now : Int64} {row older newer : Row}

/-! ## Ages by a clock from 1970 on -/

/-- **Which ages fit**: by a clock from 1970 on no stamp is too far in the future. -/
theorem fits_iff (hnow : 0 ≤ now) (row : Row) : Fits (row.age now) ↔ row.age now < 2 ^ 63 := by
  have hclock := Int64.le_iff_toInt_le.mp hnow
  have hstamp := Int64.toInt_lt row.updatedAt
  have hmin : Int64.minValue.toInt = -2 ^ 63 := rfl
  have hmax : Int64.maxValue.toInt = 2 ^ 63 - 1 := rfl
  rw [Int64.toInt_zero] at hclock
  unfold Fits Row.age
  omega

/-- A newer row is no older. -/
theorem age_le_age (hstamps : older.updatedAt ≤ newer.updatedAt) : newer.age now ≤ older.age now := by
  have hstamps := Int64.le_iff_toInt_le.mp hstamps
  unfold Row.age
  omega

/-! ## Rows that were written -/

namespace Database

variable {d : Database} {rows : Register Row}

/-- A database into which rows are written, the first one first. -/
def upsertAll : List (String × Row) → Database → Except StoreError Database
  | [], d => .ok d
  | (user, row) :: ws, d => do
    let d ← d.upsert user row
    upsertAll ws d

/-- The row that was written last for a user. -/
def lastRow? (user : String) (ws : List (String × Row)) : Option Row :=
  (ws.filter fun w => w.1 = user).getLast?.map (·.2)

/-- The first row counts only if no later one is of its user. -/
theorem lastRow?_cons (user writer : String) (row : Row) (ws : List (String × Row)) :
    lastRow? user ((writer, row) :: ws) = (lastRow? user ws).or (if user = writer then some row else none) := by
  rw [lastRow?, lastRow?, List.filter_cons]
  by_cases huser : user = writer
  · rw [if_pos huser, if_pos (decide_eq_true huser.symm), List.getLast?_cons]
    cases (ws.filter fun w => w.1 = user).getLast? <;> rfl
  · rw [if_neg huser, if_neg (by simpa using Ne.symm huser), Option.or_none]

/-- **Every row is written**, and stands for its user until the next one of that user is. -/
theorem rows_upsertAll (hd : d.rows = .ok rows) (ws : List (String × Row)) :
    ∃ d' rows', d.upsertAll ws = .ok d' ∧ d'.rows = .ok rows' ∧
      ∀ user, rows'.get? user = (lastRow? user ws).or (rows.get? user) := by
  induction ws generalizing d rows with
  | nil => exact ⟨d, rows, rfl, hd, fun _ => rfl⟩
  | cons w ws ih =>
      obtain ⟨writer, row⟩ := w
      obtain ⟨d', rows', hall, hrows, hget⟩ := ih (d := { d with users := .table (rows.set writer row) }) rfl
      refine ⟨d', rows', ?_, hrows, fun user => ?_⟩
      · rw [upsertAll, upsert, hd]
        exact hall
      · rw [hget, Register.get?_set, lastRow?_cons, Option.or_assoc]
        split <;> rfl

/-! ## Which rows are given out -/

/-- A row that is given out has an age that fits, and has not expired. -/
theorem fresh_of_getFresh {user : String} (hd : d.rows = .ok rows) (hrow : rows.get? user = some row)
    (hgiven : d.getFresh now user = .ok (some row)) : Fits (row.age now) ∧ isFresh (row.age now) = true := by
  rw [getFresh_of_get? hd hrow] at hgiven
  by_cases hfits : Fits (row.age now)
  · by_cases hfresh : isFresh (row.age now) = true
    · exact ⟨hfits, hfresh⟩
    · rw [if_pos hfits, if_neg hfresh] at hgiven
      exact absurd (Except.ok.inj hgiven) (by simp)
  · rw [if_neg hfits] at hgiven
    cases hgiven

/-- A database with its table, in which no row was written so far. -/
def unwritten : Database := ⟨1, .table .empty⟩

/-- The oldest row of all, and one of eight days before 2026. -/
def oldRows : List (String × Row) :=
  [("U1", ⟨"alice", Int64.minValue⟩), ("U2", ⟨"bob", 1766534400⟩)]

/-- **The oldest row is neither given out nor passed over**: whoever asks for it stops the program. -/
theorem oldest_row_overflows :
    ¬ ∀ (ws : List (String × Row)) (d : Database) (now : Int64) (user : String) (row : Row),
      unwritten.upsertAll ws = .ok d → 0 ≤ now → lastRow? user ws = some row →
      d.getFresh now user = .ok (if row.age now ≤ timeToLive.toInt then some row else none) := by
  intro h
  have hoverflow := h oldRows _ 1767225600 "U1" ⟨"alice", Int64.minValue⟩ rfl (by decide) (by decide)
  cases hoverflow

/-- **Which rows are given out**, of all that were written into a table, by a clock from 1970 on: each exactly if it is
    within its time to live, so that none outlives a newer one. Only where the age of a row is `2 ^ 63` or more does the
    subtraction overflow, and there the program stops. -/
theorem getFresh_written (hd : d.rows = .ok rows) (ws : List (String × Row)) :
    ∃ d', d.upsertAll ws = .ok d' ∧ ∀ now : Int64, 0 ≤ now →
      (∀ user row, lastRow? user ws = some row →
        d'.getFresh now user =
          if row.age now < 2 ^ 63 then .ok (if row.age now ≤ timeToLive.toInt then some row else none)
          else .error .overflow) ∧
      ∀ user₁ user₂ older newer, lastRow? user₁ ws = some older → lastRow? user₂ ws = some newer →
        older.updatedAt ≤ newer.updatedAt →
        d'.getFresh now user₁ = .ok (some older) → d'.getFresh now user₂ = .ok (some newer) := by
  obtain ⟨d', rows', hall, hrows, hget⟩ := rows_upsertAll hd ws
  have hrow {user : String} {row : Row} (hlast : lastRow? user ws = some row) : rows'.get? user = some row := by
    rw [hget, hlast, Option.some_or]
  refine ⟨d', hall, fun now hnow => ⟨fun user row hlast => ?_, ?_⟩⟩
  · rw [getFresh_of_get? hrows (hrow hlast)]
    simp only [fits_iff hnow, isFresh, decide_eq_true_iff]
  · intro user₁ user₂ older newer holder hnewer hstamps hgiven
    obtain ⟨hfits, hfresh⟩ := fresh_of_getFresh hrows (hrow holder) hgiven
    have hage : newer.age now ≤ older.age now := age_le_age hstamps
    have hnewfits : Fits (newer.age now) :=
      (fits_iff hnow newer).mpr (Int.lt_of_le_of_lt hage ((fits_iff hnow older).mp hfits))
    have hnewfresh : isFresh (newer.age now) = true :=
      decide_eq_true (Int.le_trans hage (of_decide_eq_true hfresh))
    rw [getFresh_of_get? hrows (hrow hnewer), if_pos hnewfits, if_pos hnewfresh]

/-- A row at the end of its week, a newer one, and one that is too old for the clock. -/
def weekOldRows : List (String × Row) :=
  [("U1", ⟨"alice", 1000⟩), ("U2", ⟨"bob", 2000⟩), ("U3", ⟨"carol", Int64.minValue⟩)]

theorem getFresh_written_at_week : unwritten.rows = .ok .empty ∧ (0 : Int64) ≤ 605800 ∧ (0 : Int64) ≤ 605801 ∧
    ∃ d', unwritten.upsertAll weekOldRows = .ok d' ∧
      d'.getFresh 605800 "U1" = .ok (some ⟨"alice", 1000⟩) ∧ d'.getFresh 605801 "U1" = .ok none ∧
      d'.getFresh 605800 "U2" = .ok (some ⟨"bob", 2000⟩) ∧ d'.getFresh 605801 "U3" = .error .overflow := by
  have htable : unwritten.rows = .ok .empty := rfl
  have hclock : (0 : Int64) ≤ 605800 := by decide
  have hlater : (0 : Int64) ≤ 605801 := by decide
  obtain ⟨d', hall, hgiven⟩ := getFresh_written htable weekOldRows
  obtain ⟨hanswer, horder⟩ := hgiven 605800 hclock
  obtain ⟨hexpired, _⟩ := hgiven 605801 hlater
  have halice := hanswer "U1" ⟨"alice", 1000⟩ (by decide)
  have hstale := hexpired "U1" ⟨"alice", 1000⟩ (by decide)
  have hcarol := hexpired "U3" ⟨"carol", Int64.minValue⟩ (by decide)
  rw [if_pos (by decide), if_pos (by decide)] at halice
  rw [if_pos (by decide), if_neg (by decide)] at hstale
  rw [if_neg (by decide)] at hcarol
  have hbob := horder "U1" "U2" ⟨"alice", 1000⟩ ⟨"bob", 2000⟩ (by decide) (by decide) (by decide) halice
  exact ⟨htable, hclock, hlater, d', hall, halice, hstale, hbob, hcarol⟩

end Database

end TeamChat.Directory
