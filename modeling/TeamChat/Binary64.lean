/-!
# Binary floating point numbers of 64 bits

A finite number is `mantissa · 2 ^ exponent` with a sign, the mantissa below `2 ^ 53` and the exponent
from `-1074` to `971`. All arithmetic is exact on natural numbers and rounds once, to the nearest
number and from a tie to the even one.

## Contents
- `roundDiv`: a quotient rounded to the nearest natural number.
- `Binary64.ofRatio`: the number nearest to a quotient, `none` beyond the greatest one.
- `ofNat?`, `mul`, `div`: rounded operations.
- `truncate`: the whole part.
-/

namespace TeamChat

/-- A finite binary floating point number, `mantissa · 2 ^ exponent` with a sign. -/
structure Binary64 where
  negative : Bool
  mantissa : Nat
  exponent : Int
deriving DecidableEq, Repr

/-- `n / d` rounded to the nearest natural number, from a tie to the even one. -/
def roundDiv (n d : Nat) : Nat :=
  let q := n / d
  let r := n % d
  if 2 * r < d then q
  else if d < 2 * r then q + 1
  else if q % 2 = 0 then q else q + 1

/-- A quotient never rounds below its whole part. -/
theorem div_le_roundDiv (n d : Nat) : n / d ≤ roundDiv n d := by
  simp only [roundDiv]
  split
  · exact Nat.le_refl _
  · split
    · exact Nat.le_succ _
    · split
      · exact Nat.le_refl _
      · exact Nat.le_succ _

/-! ## Scaling by powers of two -/

/-- `num / den` divided by `2 ^ e`, as a numerator and a denominator. -/
def scale (num den : Nat) (e : Int) : Nat × Nat :=
  (num <<< (-e).toNat, den <<< e.toNat)

/-- The greatest power of two not above `num / den`, as its exponent. -/
def binade (num den : Nat) : Int :=
  let k : Int := (num.log2 : Int) - den.log2
  let (n, d) := scale num den k
  if d ≤ n then k else k - 1

namespace Binary64

/-! ## Rounding -/

/-- The least exponent. -/
def minExponent : Int := -1074

/-- The greatest exponent. -/
def maxExponent : Int := 971

/-- The least mantissa in full precision: its leading bit is the 53rd. -/
def leadingBit : Nat := 1 <<< 52

/-- Zero, with a sign. -/
def zero (negative : Bool) : Binary64 := ⟨negative, 0, minExponent⟩

/-- The exponent with which a quotient is written in full precision. -/
def exponentOf (num den : Nat) : Int :=
  max minExponent (binade num den - 52)

/-- The number nearest to `num / den`, `none` if it lies beyond the greatest one. -/
def ofRatio (negative : Bool) (num den : Nat) : Option Binary64 :=
  if num = 0 then some (zero negative)
  else
    let e := exponentOf num den
    let (n, d) := scale num den e
    let m := roundDiv n d
    -- rounding up may reach the next power of two
    let (m, e) := if m = 2 * leadingBit then (leadingBit, e + 1) else (m, e)
    if maxExponent < e then none else some ⟨negative, m, e⟩

/-- The magnitude as a numerator and a denominator. -/
def ratio (x : Binary64) : Nat × Nat :=
  (x.mantissa <<< x.exponent.toNat, 1 <<< (-x.exponent).toNat)

/-- The number nearest to a natural number. -/
def ofNat? (n : Nat) : Option Binary64 := ofRatio false n 1

/-- The rounded product, `none` beyond the greatest number. -/
def mul (x y : Binary64) : Option Binary64 :=
  ofRatio (x.negative != y.negative) (x.ratio.1 * y.ratio.1) (x.ratio.2 * y.ratio.2)

/-- The rounded quotient, `none` beyond the greatest number or by zero. -/
def div (x y : Binary64) : Option Binary64 :=
  if y.mantissa = 0 then none
  else ofRatio (x.negative != y.negative) (x.ratio.1 * y.ratio.2) (x.ratio.2 * y.ratio.1)

/-- The whole part of the magnitude. -/
def floor (x : Binary64) : Nat :=
  x.ratio.1 / x.ratio.2

/-- The whole part, rounded toward zero. -/
def truncate (x : Binary64) : Int :=
  if x.negative then -(x.floor : Int) else x.floor

end Binary64

end TeamChat
