/-!
# Numerals

Natural numbers as digits, most significant first, in any base, and the readers and writers of
numbers built on them. Zero has one digit; no other number starts with the digit zero.

## Contents
- `digits`, `value`: a number's digits and the number that digits stand for.
- `value_digits`, `digits_lt`, `digits_ne_nil`: what is read back, the range of the digits.
- `powerOfTen`: powers of ten.
- `decimal`, `hexadecimal`, `signed`, `padded`: written numbers.
- `digitValue?`, `read?`, `readUnsigned?`: read numbers.
-/

namespace TeamChat.Numeral

/-! ## Digits and their value -/

/-- The digits of `n` in base `b`, most significant first. -/
def digits (b n : Nat) : List Nat :=
  if 2 ≤ b ∧ b ≤ n then digits b (n / b) ++ [n % b] else [n]
termination_by n
decreasing_by
  rename_i h
  exact Nat.div_lt_self (by omega) (by omega)

/-- The number that digits in base `b` stand for. -/
def value (b : Nat) (ds : List Nat) : Nat :=
  ds.foldl (fun n d => n * b + d) 0

@[simp] theorem value_nil (b : Nat) : value b [] = 0 := rfl

@[simp] theorem value_append_singleton (b : Nat) (ds : List Nat) (d : Nat) :
    value b (ds ++ [d]) = value b ds * b + d := by
  simp [value]

/-- Digits read back as the number they were taken from. -/
theorem value_digits (b n : Nat) : value b (digits b n) = n := by
  fun_induction digits b n with
  | case1 n h ih =>
    rw [value_append_singleton, ih]
    have := Nat.div_add_mod n b
    rw [Nat.mul_comm] at this
    exact this
  | case2 n h => simp [value]

theorem digits_ne_nil (b n : Nat) : digits b n ≠ [] := by
  unfold digits
  split <;> simp

/-- Every digit is below the base. -/
theorem digits_lt {b n d : Nat} (hb : 2 ≤ b) (hd : d ∈ digits b n) : d < b := by
  fun_induction digits b n with
  | case1 n h ih =>
    rcases List.mem_append.mp hd with hd | hd
    · exact ih hd
    · rw [List.mem_singleton.mp hd]
      exact Nat.mod_lt _ (by omega)
  | case2 n h =>
    rw [List.mem_singleton.mp hd]
    omega

/-! ## Powers of ten -/

/-- A power of ten. -/
def powerOfTen (k : Nat) : Nat :=
  Nat.pow 10 k

@[simp] theorem powerOfTen_zero : powerOfTen 0 = 1 := rfl

/-! ## Writing -/

/-- The character of a digit below sixteen, letters in lower case. -/
def digitChar (d : Nat) : Char :=
  Char.ofNat (if d < 10 then 48 + d else 87 + d)

/-- A number in base ten. -/
def decimal (n : Nat) : List Char :=
  (digits 10 n).map digitChar

/-- A number in base sixteen, letters in lower case. -/
def hexadecimal (n : Nat) : List Char :=
  (digits 16 n).map digitChar

/-- An integer in base ten, with a minus sign if it is negative. -/
def signed (z : Int) : List Char :=
  if z < 0 then '-' :: decimal z.natAbs else decimal z.natAbs

/-- A number in base ten, filled with leading zeros up to a width. -/
def padded (width n : Nat) : List Char :=
  List.replicate (width - (decimal n).length) '0' ++ decimal n

/-! ## Reading -/

/-- The value of a character as a digit of a base up to sixteen, letters in either case. -/
def digitValue? (base : Nat) (c : Char) : Option Nat :=
  let d :=
    if '0' ≤ c ∧ c ≤ '9' then c.toNat - 48
    else if 'a' ≤ c ∧ c ≤ 'z' then c.toNat - 87
    else if 'A' ≤ c ∧ c ≤ 'Z' then c.toNat - 55
    else base
  if d < base then some d else none

/-- The number that a non-empty run of digits stands for. -/
def read? (base : Nat) (s : List Char) : Option Nat :=
  if s.isEmpty then none else (s.mapM (digitValue? base)).map (value base)

/-- A number below a bound, with or without a plus sign. -/
def readUnsigned? (base bound : Nat) (s : List Char) : Option Nat :=
  let digits := match s with
    | '+' :: r => r
    | s => s
  (read? base digits).filter (· < bound)

end TeamChat.Numeral
