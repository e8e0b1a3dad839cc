/-!
# Dates

Days are counted from 1970-01-01, in the Gregorian calendar extended to all years. The count works on
eras of 400 years and on years that begin in March, so that the leap day is the last of its year.

## Contents
- `Date`: year, month and day.
- `Date.toDay`, `Date.ofDay`: a date and its day count.
- `Date.isValid`: the dates that exist.
- `toDay_ofDay`: a day is the day of its own date.
-/

namespace TeamChat.Calendar

/-- A day of a month of a year. -/
structure Date where
  year : Int
  month : Nat
  day : Nat
deriving DecidableEq, Repr

/-- Whether a year has a leap day. -/
def isLeap (year : Int) : Bool :=
  year % 4 = 0 && (year % 100 ≠ 0 || year % 400 = 0)

/-- The days of a month. -/
def daysOfMonth (year : Int) : Nat → Nat
  | 2 => if isLeap year then 29 else 28
  | 4 | 6 | 9 | 11 => 30
  | _ => 31

namespace Date

/-- Whether the month has that day. -/
def isValid (d : Date) : Bool :=
  1 ≤ d.month && d.month ≤ 12 && 1 ≤ d.day && d.day ≤ daysOfMonth d.year d.month

/-! ## Counting

Day 0 of the count is the first of March of the year 0; 1970-01-01 is day 719468. -/

/-- The days before the first of March of a year. -/
def daysBefore (year : Int) : Int :=
  year * 365 + year / 4 - year / 100 + year / 400

/-- The year, beginning in March, of a day. The last of four years and the last of four centuries may be
one day longer than the others. -/
def yearOf (day : Int) : Int :=
  let dayOfEra := day % 146097
  let century := min 3 (dayOfEra / 36524)
  let dayOfCentury := dayOfEra - century * 36524
  let quarter := dayOfCentury / 1461
  let dayOfQuarter := dayOfCentury - quarter * 1461
  day / 146097 * 400 + century * 100 + quarter * 4 + min 3 (dayOfQuarter / 365)

/-- The days from 1970-01-01 to a date. -/
def toDay (d : Date) : Int :=
  let year : Int := if d.month ≤ 2 then d.year - 1 else d.year
  let month : Int := if d.month ≤ 2 then d.month + 9 else d.month - 3
  daysBefore year + (153 * month + 2) / 5 + d.day - 1 - 719468

/-- The date of a day of a month, with the months counted from March. -/
def ofMarch (year month day : Int) : Date :=
  { year := if month < 10 then year else year + 1
    month := (if month < 10 then month + 3 else month - 9).toNat
    day := day.toNat }

/-- The date of a day of a year that begins in March. -/
def ofDayOfYear (year day : Int) : Date :=
  let month := (5 * day + 2) / 153
  ofMarch year month (day - (153 * month + 2) / 5 + 1)

/-- The date of a day. -/
def ofDay (n : Int) : Date :=
  let year := yearOf (n + 719468)
  ofDayOfYear year (n + 719468 - daysBefore year)

theorem toDay_ofMarch (y : Int) {m d : Int} (hm : 0 ≤ m ∧ m ≤ 11) (hd : 0 ≤ d) :
    (ofMarch y m d).toDay = daysBefore y + (153 * m + 2) / 5 + d - 1 - 719468 := by
  simp only [ofMarch, toDay]
  by_cases h : m < 10
  · simp only [if_pos h]
    rw [if_neg (by omega), if_neg (by omega), show (((m + 3).toNat : Int) - 3) = m by omega]
    omega
  · simp only [if_neg h]
    rw [if_pos (by omega), if_pos (by omega), show (((m - 9).toNat : Int) + 9) = m by omega,
      Int.add_sub_cancel]
    omega

theorem toDay_ofDayOfYear (y : Int) {d : Int} (h₀ : 0 ≤ d) (h₁ : d ≤ 365) :
    (ofDayOfYear y d).toDay = daysBefore y + d - 719468 := by
  rw [ofDayOfYear, toDay_ofMarch y (by omega) (by omega)]
  omega

/-- Years of four, a hundred and four hundred years, counted in their own units. -/
theorem daysBefore_parts (e c q y : Int) (hc : 0 ≤ c ∧ c ≤ 3) (hq : 0 ≤ q ∧ q ≤ 24)
    (hy : 0 ≤ y ∧ y ≤ 3) :
    daysBefore (e * 400 + c * 100 + q * 4 + y) = e * 146097 + c * 36524 + q * 1461 + y * 365 := by
  simp only [daysBefore]
  have h4 : (e * 400 + c * 100 + q * 4 + y) / 4 = e * 100 + c * 25 + q := by omega
  have h100 : (e * 400 + c * 100 + q * 4 + y) / 100 = e * 4 + c := by omega
  have h400 : (e * 400 + c * 100 + q * 4 + y) / 400 = e := by omega
  rw [h4, h100, h400]
  omega

theorem dayOfYear_bounds (n : Int) :
    0 ≤ n - daysBefore (yearOf n) ∧ n - daysBefore (yearOf n) ≤ 365 := by
  simp only [yearOf]
  have hn := Int.mul_ediv_add_emod n 146097
  have h0 := Int.emod_nonneg n (show (146097 : Int) ≠ 0 by decide)
  have h1 := Int.emod_lt_of_pos n (show (0 : Int) < 146097 by decide)
  generalize n / 146097 = e at *
  generalize n % 146097 = d at *
  generalize hc : min 3 (d / 36524) = c
  have hc' : 0 ≤ c ∧ c ≤ 3 ∧ 0 ≤ d - c * 36524 ∧ d - c * 36524 ≤ 36524 := by omega
  generalize hr : d - c * 36524 = r at *
  generalize hq : r / 1461 = q
  have hq' : 0 ≤ q ∧ q ≤ 24 ∧ 0 ≤ r - q * 1461 ∧ r - q * 1461 ≤ 1460 := by omega
  generalize hs : r - q * 1461 = s at *
  generalize hy : min 3 (s / 365) = y
  rw [daysBefore_parts e c q y (by omega) (by omega) (by omega)]
  omega

/-- A day is the day of its own date. -/
theorem toDay_ofDay (n : Int) : (ofDay n).toDay = n := by
  have h := dayOfYear_bounds (n + 719468)
  rw [ofDay, toDay_ofDayOfYear _ h.1 h.2]
  omega

end Date

end TeamChat.Calendar
