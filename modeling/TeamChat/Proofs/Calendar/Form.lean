import TeamChat.Calendar.Reader
import TeamChat.Proofs.Text.Numerals

/-!
# `Calendar.Form`: instants read back

Every whole second whose date can be shown is read back from its written form (`Instant.ofText_toText`). For this
the date of a day has to exist (`Date.isValid_ofDay`), its year has to be one that can be written, and every reader
has to take as many digits as the writer has put there.

## Contents
- `Date.isValid_ofDay`, `Date.year_ofDay`: the dates of days.
- `number_padded`, `item_padded`, `year_yearText`: the parts read back.
- `Instant.ofText_toText`: the whole form.
-/

namespace TeamChat.Calendar

open Numeral (padded filled digitChar)

/-! ## The dates of days -/

namespace Date

/-- Only a leap year has a day 365, counted from zero in March. -/
theorem isLeap_of_dayOfYear {n : Int} (h : n - daysBefore (yearOf n) = 365) :
    isLeap (yearOf n + 1) = true := by
  simp only [yearOf] at h ⊢
  have hn := Int.mul_ediv_add_emod n 146097
  have h0 := Int.emod_nonneg n (show (146097 : Int) ≠ 0 by decide)
  have h1 := Int.emod_lt_of_pos n (show (0 : Int) < 146097 by decide)
  generalize n / 146097 = e at *
  generalize n % 146097 = d at *
  generalize hc : min 3 (d / 36524) = c at *
  have hc' : 0 ≤ c ∧ c ≤ 3 ∧ (c < 3 → d - c * 36524 < 36524) ∧ d - c * 36524 ≤ 36524 := by omega
  generalize hr : d - c * 36524 = r at *
  generalize hq : r / 1461 = q at *
  have hq' : 0 ≤ q ∧ q ≤ 24 ∧ 0 ≤ r - q * 1461 ∧ r - q * 1461 ≤ 1460 := by omega
  generalize hs : r - q * 1461 = s at *
  generalize hy : min 3 (s / 365) = y at *
  rw [daysBefore_parts e c q y (by omega) (by omega) (by omega)] at h
  -- the last day of four years, and of four centuries if it is the last of one
  have last : y = 3 ∧ s = 1460 := by omega
  have century : q = 24 → c = 3 := by omega
  simp only [isLeap, Bool.and_eq_true, Bool.or_eq_true, decide_eq_true_eq, ne_eq]
  omega

/-- The months from March to January have as many days as they are given room for. -/
theorem daysOfMonth_ofMarch (y day : Int) {m : Int} (h₀ : 0 ≤ m) (h₁ : m ≤ 10) :
    (daysOfMonth (ofMarch y m day).year (ofMarch y m day).month : Int) =
      (153 * (m + 1) + 2) / 5 - (153 * m + 2) / 5 := by
  -- the formula is exact in every month, but no single reason covers them all
  have month : m = 0 ∨ m = 1 ∨ m = 2 ∨ m = 3 ∨ m = 4 ∨ m = 5 ∨ m = 6 ∨ m = 7 ∨ m = 8 ∨ m = 9 ∨ m = 10 := by omega
  rcases month with rfl | rfl | rfl | rfl | rfl | rfl | rfl | rfl | rfl | rfl | rfl <;> rfl

theorem isValid_iff (d : Date) :
    d.isValid = true ↔ 1 ≤ d.month ∧ d.month ≤ 12 ∧ 1 ≤ d.day ∧ d.day ≤ daysOfMonth d.year d.month := by
  simp [isValid, and_assoc]

theorem isValid_ofDayOfYear {y d : Int} (h₀ : 0 ≤ d) (h₁ : d ≤ 365) (leap : d = 365 → isLeap (y + 1) = true) :
    (ofDayOfYear y d).isValid = true := by
  rw [isValid_iff]
  unfold ofDayOfYear
  simp only
  generalize hm : (5 * d + 2) / 153 = m
  generalize hday : d - (153 * m + 2) / 5 + 1 = day
  by_cases hfeb : m = 11
  · subst hfeb
    have length : daysOfMonth (ofMarch y 11 day).year 2 = if isLeap (y + 1) then 29 else 28 := rfl
    refine ⟨Nat.le_succ 1, Nat.le_add_left 2 10, ?_, ?_⟩
    · show 1 ≤ day.toNat
      omega
    · show day.toNat ≤ daysOfMonth (ofMarch y 11 day).year 2
      rw [length]
      by_cases hd : d = 365
      · rw [if_pos (leap hd)]
        omega
      · split
        · omega
        · omega
  · have length := daysOfMonth_ofMarch y day (m := m) (by omega) (by omega)
    refine ⟨?_, ?_, ?_, ?_⟩
    · simp only [ofMarch]
      split <;> omega
    · simp only [ofMarch]
      split <;> omega
    · show 1 ≤ day.toNat
      omega
    · show day.toNat ≤ _
      omega

/-- **The date of a day exists.** -/
theorem isValid_ofDay (n : Int) : (ofDay n).isValid = true := by
  obtain ⟨h₀, h₁⟩ := dayOfYear_bounds (n + 719468)
  exact isValid_ofDayOfYear h₀ h₁ isLeap_of_dayOfYear

theorem daysOfMonth_le (y : Int) (m : Nat) : daysOfMonth y m ≤ 31 := by
  unfold daysOfMonth
  split
  · split <;> omega
  all_goals omega

/-- The years that can be written are those of the representable days. -/
theorem year_ofDay {n : Int} (h₀ : -96465292 ≤ n) (h₁ : n ≤ 95026236) :
    -262143 ≤ (ofDay n).year ∧ (ofDay n).year ≤ 262142 := by
  obtain ⟨hm₀, hm₁, hd₀, hd⟩ := (isValid_iff _).mp (isValid_ofDay n)
  have hd₁ := daysOfMonth_le (ofDay n).year (ofDay n).month
  have same := toDay_ofDay n
  simp only [toDay, daysBefore] at same
  generalize (ofDay n).year = y at *
  generalize (ofDay n).month = m at *
  generalize (ofDay n).day = d at *
  -- the years next to the bounds are counted out, for those beyond them a rough count will do
  have above : y = 262143 ∨ 262143 < y ∨ y ≤ 262142 := by omega
  have below : y = -262144 ∨ y < -262144 ∨ -262143 ≤ y := by omega
  by_cases h : m ≤ 2
  · simp only [if_pos h] at same
    rcases above with rfl | above | above <;> rcases below with below | below | below <;> omega
  · simp only [if_neg h] at same
    rcases below with rfl | below | below <;> rcases above with above | above | above <;> omega

end Date

/-! ## The parts -/

variable {n w : Nat} {rest : List Char}

theorem isDigit_digitChar {d : Nat} (h : d < 10) : isDigit (digitChar d) = true := by
  have all : ∀ d' : Fin 10, isDigit (digitChar d'.val) = true := by decide
  exact all ⟨d, h⟩

theorem isDigit_of_mem_padded {c : Char} (h : c ∈ padded w n) : isDigit c = true := by
  rw [Numeral.padded_eq, List.mem_map] at h
  obtain ⟨d, hd, rfl⟩ := h
  exact isDigit_digitChar (Numeral.filled_lt (by decide) hd)

theorem length_padded (hw : 0 < w) (h : n < Nat.pow 10 w) : (padded w n).length = w := by
  rw [Numeral.padded_eq, List.length_map]
  exact Numeral.length_filled (by decide) hw h

theorem isBlank_of_isDigit {c : Char} (h : isDigit c = true) : Text.isBlank c = false := by
  simp only [isDigit, Bool.and_eq_true, decide_eq_true_eq] at h
  have low : 48 ≤ c.toNat := h.1
  have high : c.toNat ≤ 57 := h.2
  simp [Text.isBlank, Text.Ranges.contains, Text.blankRanges]
  omega

/-- A number starts with a digit. -/
theorem padded_cons (w n : Nat) : ∃ c cs, padded w n = c :: cs ∧ isDigit c = true := by
  cases hp : padded w n with
  | nil =>
      rw [Numeral.padded_eq, List.map_eq_nil_iff] at hp
      exact absurd hp (Numeral.filled_ne_nil 10 w n)
  | cons c cs => exact ⟨c, cs, rfl, isDigit_of_mem_padded (w := w) (n := n) (hp ▸ List.mem_cons_self)⟩

theorem skipBlanks_cons {c : Char} (h : Text.isBlank c = false) (r : List Char) : skipBlanks (c :: r) = c :: r := by
  simp [skipBlanks, h]

theorem skipBlanks_padded (w n : Nat) (rest : List Char) : skipBlanks (padded w n ++ rest) = padded w n ++ rest := by
  obtain ⟨c, cs, hp, hc⟩ := padded_cons w n
  rw [hp]
  exact skipBlanks_cons (isBlank_of_isDigit hc) _

/-- **A number is read back** if the reader takes as many digits as there are. -/
theorem number_padded {limit : Option Nat} (h : digitsOf limit (padded w n ++ rest) = padded w n)
    (small : (n : Int) ≤ Int64.maxValue.toInt) : number limit (padded w n ++ rest) = .ok (n, rest) := by
  unfold number
  rw [h]
  have value : Numeral.read? 10 (padded w n) = some n := by
    rw [Numeral.padded_eq, Numeral.read?_filled (by decide) (by decide)]
  obtain ⟨c, cs, hp, _⟩ := padded_cons w n
  rw [hp] at value ⊢
  simp only [value, Option.getD_some, if_pos small]
  simp

/-- A reader of so many digits takes all of them and no more. -/
theorem number_width (hw : 0 < w) (h : n < Nat.pow 10 w) (small : (n : Int) ≤ Int64.maxValue.toInt) :
    number (some w) (padded w n ++ rest) = .ok (n, rest) := by
  refine number_padded ?_ small
  have digits : ∀ c ∈ padded w n, isDigit c = true := fun c hc => isDigit_of_mem_padded hc
  simp only [digitsOf]
  rw [List.takeWhile_append_of_pos digits]
  exact List.take_left' (length_padded hw h)

/-- A reader of any number of digits stops at a separator. -/
theorem number_run {c : Char} (hc : isDigit c = false) (small : (n : Int) ≤ Int64.maxValue.toInt) :
    number none (padded w n ++ c :: rest) = .ok (n, c :: rest) := by
  refine number_padded ?_ small
  have digits : ∀ d ∈ padded w n, isDigit d = true := fun d hd => isDigit_of_mem_padded hd
  simp only [digitsOf]
  rw [List.takeWhile_append_of_pos digits, List.takeWhile_cons_of_neg (by simp [hc]), List.append_nil]

theorem item_padded {lo hi : Nat} (h₀ : lo ≤ n) (h₁ : n ≤ hi) (hhi : hi < 100) :
    item lo hi (padded 2 n ++ rest) = .ok (n, rest) := by
  unfold item
  have small : (n : Int) ≤ Int64.maxValue.toInt := by
    have : Int64.maxValue.toInt = 9223372036854775807 := rfl
    omega
  have two : n < Nat.pow 10 2 := Nat.lt_of_le_of_lt h₁ hhi
  rw [skipBlanks_padded, number_width (by decide) two small]
  exact if_pos ⟨h₀, h₁⟩

theorem literal_cons {c : Char} (h : Text.isBlank c = false) : literal c (c :: rest) = .ok rest := by
  unfold literal
  rw [skipBlanks_cons h]
  exact if_pos rfl

/-- **A year is read back**, with its sign or without one. -/
theorem year_yearText {y : Int} (h₀ : -262143 ≤ y) (h₁ : y ≤ 262142) :
    year (Instant.yearText y ++ '-' :: rest) = .ok (y, '-' :: rest) := by
  have small : (y.natAbs : Int) ≤ Int64.maxValue.toInt := by
    have : Int64.maxValue.toInt = 9223372036854775807 := rfl
    omega
  have limits : Int32.minValue.toInt ≤ y ∧ y ≤ Int32.maxValue.toInt := by
    have : Int32.minValue.toInt = -2147483648 := rfl
    have : Int32.maxValue.toInt = 2147483647 := rfl
    omega
  have run : number none (padded 4 y.natAbs ++ '-' :: rest) = .ok (y.natAbs, '-' :: rest) :=
    number_run (by decide) small
  unfold year Instant.yearText
  by_cases hneg : y < 0
  · rw [if_pos hneg, List.cons_append, skipBlanks_cons (by decide)]
    simp only [run]
    have value : -(y.natAbs : Int) = y := by omega
    show (if _ ≤ -(y.natAbs : Int) ∧ -(y.natAbs : Int) ≤ _ then Except.ok (-(y.natAbs : Int), _) else _) = _
    rw [value, if_pos limits]
  · have value : (y.natAbs : Int) = y := by omega
    rw [if_neg hneg]
    by_cases hbig : 9999 < y
    · rw [if_pos hbig, List.cons_append, skipBlanks_cons (by decide)]
      simp only [run]
      show (if _ ≤ (y.natAbs : Int) ∧ (y.natAbs : Int) ≤ _ then Except.ok ((y.natAbs : Int), _) else _) = _
      rw [value, if_pos limits]
    · rw [if_neg hbig, skipBlanks_padded]
      have width : y.natAbs < Nat.pow 10 4 := by
        show y.natAbs < 10000
        omega
      have four : number (some 4) (padded 4 y.natAbs ++ '-' :: rest) = .ok (y.natAbs, '-' :: rest) :=
        number_width (by decide) width small
      obtain ⟨c, cs, hp, hc⟩ := padded_cons 4 y.natAbs
      rw [hp, List.cons_append] at four ⊢
      -- the first character is a digit and so no sign
      have minus : c ≠ '-' := by
        rintro rfl
        exact absurd hc (by decide)
      have plus : c ≠ '+' := by
        rintro rfl
        exact absurd hc (by decide)
      split
      · next heq => exact absurd (List.cons.inj heq).1 minus
      · next heq => exact absurd (List.cons.inj heq).1 plus
      · rw [four]
        show (if _ ≤ (y.natAbs : Int) ∧ (y.natAbs : Int) ≤ _ then Except.ok ((y.natAbs : Int), _) else _) = _
        rw [value, if_pos limits]

/-! ## The whole form -/

/-- The parts of an instant within a whole second are read back. -/
theorem Parts.ofText_writeParts {d : Date} (hd : d.isValid = true) (h₀ : -262143 ≤ d.year) (h₁ : d.year ≤ 262142)
    {s : Nat} (hs : s < 86400) :
    Parts.ofText (Instant.writeParts d s 0) = .ok ⟨d, s / 3600, s / 60 % 60, s % 60, 0, 0⟩ := by
  obtain ⟨hm₀, hm₁, hd₀, hd₁⟩ := (Date.isValid_iff d).mp hd
  have hd₂ : d.day ≤ 31 := Nat.le_trans hd₁ (Date.daysOfMonth_le _ _)
  have dash (r : List Char) : literal '-' ('-' :: r) = .ok r := literal_cons (by decide)
  have colon (r : List Char) : literal ':' (':' :: r) = .ok r := literal_cons (by decide)
  have divide (r : List Char) : dateEnd ('T' :: r) = .ok r := by simp [dateEnd]
  have month (r : List Char) : item 1 12 (padded 2 d.month ++ r) = .ok (d.month, r) :=
    item_padded hm₀ hm₁ (by decide)
  have day (r : List Char) : item 1 31 (padded 2 d.day ++ r) = .ok (d.day, r) :=
    item_padded hd₀ hd₂ (by decide)
  have hour (r : List Char) : item 0 23 (padded 2 (s / 3600) ++ r) = .ok (s / 3600, r) :=
    item_padded (Nat.zero_le _) (by omega) (by decide)
  have minute (r : List Char) : item 0 59 (padded 2 (s / 60 % 60) ++ r) = .ok (s / 60 % 60, r) :=
    item_padded (Nat.zero_le _) (by omega) (by decide)
  have second (r : List Char) : item 0 60 (padded 2 (s % 60) ++ r) = .ok (s % 60, r) :=
    item_padded (Nat.zero_le _) (by omega) (by decide)
  have fine : fraction ['Z'] = .ok (0, ['Z']) := rfl
  have zulu : utcOffset (skipBlanks ['Z']) = .ok (0, []) := rfl
  have whole : Instant.fractionText (0 % 1000000000) ++ ['Z'] = ['Z'] := rfl
  unfold Parts.ofText Instant.writeParts
  simp only [List.append_assoc, List.cons_append, whole, Nat.zero_div, Nat.add_zero]
  simp only [year_yearText h₀ h₁, bind, Except.bind, dash, month, day, divide, hour, colon, minute, second, fine,
    zulu]
  rfl

/-- A whole second whose date can be shown. -/
structure Instant.IsWhole (t : Instant) : Prop where
  nanos : t.nanos = 0
  shown : isRepresentable t.seconds = true

/-- **An instant is read back** from its written form if it is a whole second whose date can be shown. -/
theorem Instant.ofText_toText {t : Instant} (h : t.IsWhole) : Instant.ofText t.toText = .ok t := by
  obtain ⟨seconds, nanos⟩ := t
  obtain ⟨rfl : nanos = 0, h⟩ := h
  have room := h
  simp only [Instant.isRepresentable, Bool.and_eq_true, decide_eq_true_eq] at room
  have valid := Date.isValid_ofDay (seconds / 86400)
  obtain ⟨h₀, h₁⟩ := Date.year_ofDay (n := seconds / 86400) (by omega) (by omega)
  have hs : (seconds % 86400).toNat < 86400 := by omega
  have parts := Parts.ofText_writeParts valid h₀ h₁ hs
  unfold Instant.ofText Instant.toText
  rw [String.toList_ofList]
  show (Parts.ofText (Instant.writeParts (Date.ofDay (seconds / 86400)) (seconds % 86400).toNat 0)).bind _ = _
  rw [parts]
  show Parts.instant _ = _
  unfold Parts.instant
  have early : ¬ (Date.ofDay (seconds / 86400)).year < -262143 := by omega
  have late : ¬ 262142 < (Date.ofDay (seconds / 86400)).year := by omega
  have no_leap : (seconds % 86400).toNat % 60 ≠ 60 := by omega
  have same : seconds / 86400 * 86400 + (((seconds % 86400).toNat / 3600 * 3600 +
      (seconds % 86400).toNat / 60 % 60 * 60 + (seconds % 86400).toNat % 60 : Nat) : Int) - 0 = seconds := by
    omega
  simp only [valid, early, late, no_leap, Date.toDay_ofDay, if_false, same, h]
  simp

end TeamChat.Calendar
