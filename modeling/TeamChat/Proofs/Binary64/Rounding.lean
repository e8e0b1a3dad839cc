import Mathlib.Algebra.Group.Nat.Defs
import TeamChat.Binary64

/-!
# `Binary64.ofRatio`: the whole part of a rounded quotient

Rounding moves a quotient by half a unit in the last place at most. A quotient below `2 ^ b` has units of
`2 ^ (b - 53)` or less, so its whole part stays the same if the next whole number is more than `2 ^ (b - 54)` away
(`floor_ofRatio`).

## Contents
- `roundDiv_mul_le`: a rounded quotient is at most half a unit above.
- `binade_lt`: the binade of a quotient below a power of two.
- `floor_double`, `floor_of_shift`: the whole part, whichever way a number is written.
- `Binary64.floor_ofRatio`: the whole part of the number nearest to a quotient.
-/

namespace TeamChat

variable {num den n d b : Nat}

/-- A rounded quotient is at most half a unit above. -/
theorem roundDiv_mul_le (n d : Nat) : 2 * (roundDiv n d * d) ≤ 2 * n + d := by
  have parts := Nat.div_add_mod' n d
  have below : 2 * (n / d * d) ≤ 2 * n + d := by omega
  have above (h : d ≤ 2 * (n % d)) : 2 * ((n / d + 1) * d) ≤ 2 * n + d := by
    have next : (n / d + 1) * d = n / d * d + d := Nat.succ_mul _ _
    omega
  simp only [roundDiv]
  split
  · exact below
  · next hlow =>
      have high : d ≤ 2 * (n % d) := by omega
      split
      · exact above high
      · split
        · exact below
        · exact above high

/-- A quotient below a power of two lies in a binade below it. -/
theorem binade_lt (hnum : num ≠ 0) (h : num < 2 ^ b * den) : binade num den < b := by
  have low : 2 ^ num.log2 ≤ num := Nat.log2_self_le hnum
  have high : den < 2 ^ (den.log2 + 1) := Nat.lt_log2_self
  -- the difference of the logarithms is the binade or one more
  have close : num.log2 < b + den.log2 + 1 := by
    have bound : 2 ^ num.log2 < 2 ^ (b + den.log2 + 1) := by
      calc 2 ^ num.log2 ≤ num := low
        _ < 2 ^ b * den := h
        _ ≤ 2 ^ b * 2 ^ (den.log2 + 1) := Nat.mul_le_mul_left _ (Nat.le_of_lt high)
        _ = 2 ^ (b + den.log2 + 1) := by rw [← Nat.pow_add, Nat.add_assoc]
    exact (Nat.pow_lt_pow_iff_right (by decide)).mp bound
  unfold binade
  simp only []
  split
  · next hle =>
      refine Int.lt_of_not_ge ?_
      intro hge
      -- a difference of `b` would put the quotient above the power of two
      have hk : (num.log2 : Int) - den.log2 = b := by omega
      have hshift : (-(b : Int)).toNat = 0 := by omega
      rw [hk] at hle
      simp only [scale, hshift, Int.toNat_natCast, Nat.shiftLeft_eq, Nat.pow_zero, Nat.mul_one] at hle
      rw [Nat.mul_comm] at hle
      omega
  · omega

/-- A quotient in units of `2 ^ -k`, rounded: its whole part stays if the next whole number is more than half a unit
    away. -/
theorem roundDiv_shifted_div {k : Nat} (hden : den ≠ 0) (far : den < 2 ^ (k + 1) * (den - num % den)) :
    roundDiv (num * 2 ^ k) den / 2 ^ k = num / den := by
  have hmod : num % den < den := Nat.mod_lt _ (Nat.pos_of_ne_zero hden)
  have parts := Nat.div_add_mod' num den
  have next : (num / den + 1) * den = num + (den - num % den) := by
    rw [Nat.succ_mul]
    omega
  refine Nat.div_eq_of_lt_le ?_ ?_
  · -- rounding never goes below the whole part
    refine Nat.le_trans ?_ (div_le_roundDiv _ _)
    rw [Nat.le_div_iff_mul_le (Nat.pos_of_ne_zero hden)]
    calc num / den * 2 ^ k * den = num / den * den * 2 ^ k := Nat.mul_right_comm _ _ _
      _ ≤ num * 2 ^ k := Nat.mul_le_mul_right _ (Nat.div_mul_le_self _ _)
  · -- the next whole number is too far
    refine Nat.lt_of_mul_lt_mul_right (a := 2 * den) ?_
    calc roundDiv (num * 2 ^ k) den * (2 * den)
        = 2 * (roundDiv (num * 2 ^ k) den * den) := Nat.mul_left_comm _ _ _
      _ ≤ 2 * (num * 2 ^ k) + den := roundDiv_mul_le _ _
      _ < 2 * (num * 2 ^ k) + 2 ^ (k + 1) * (den - num % den) := Nat.add_lt_add_left far _
      _ = (num / den + 1) * 2 ^ k * (2 * den) := by
          rw [Nat.mul_left_comm _ 2 den, Nat.mul_right_comm, next, Nat.pow_succ, Nat.add_mul, Nat.mul_add,
            Nat.mul_comm (2 ^ k) 2, Nat.mul_assoc, Nat.mul_comm (2 ^ k)]

namespace Binary64

variable (negative : Bool) {m : Nat} {e : Int}

/-! ## Whole parts -/

theorem floor_of_shift (k : Nat) : floor ⟨negative, m, -(k : Int)⟩ = m / 2 ^ k := by
  have none_ : (-(k : Int)).toNat = 0 := by omega
  simp only [floor, ratio, none_, Int.neg_neg, Int.toNat_natCast, Nat.shiftLeft_eq, Nat.pow_zero, Nat.mul_one,
    Nat.one_mul]

/-- A mantissa of half the size stands for the same number with the next exponent. -/
theorem floor_double : floor ⟨negative, 2 * m, e⟩ = floor ⟨negative, m, e + 1⟩ := by
  simp only [floor, ratio, Nat.shiftLeft_eq, Nat.one_mul]
  by_cases he : 0 ≤ e
  · have up : (e + 1).toNat = e.toNat + 1 := by omega
    have down : (-e).toNat = 0 := by omega
    have down' : (-(e + 1)).toNat = 0 := by omega
    rw [up, down, down', Nat.pow_succ, Nat.mul_comm 2 m, Nat.mul_assoc, Nat.mul_comm 2]
  · have up : e.toNat = 0 := by omega
    have up' : (e + 1).toNat = 0 := by omega
    have down : (-e).toNat = (-(e + 1)).toNat + 1 := by omega
    rw [up, up', down, Nat.pow_zero, Nat.mul_one, Nat.mul_one, Nat.pow_succ, Nat.mul_comm _ 2]
    exact Nat.mul_div_mul_left _ _ (by decide)

/-- The number nearest to a quotient has the whole part of the rounded mantissa, carried over or not. -/
theorem ofRatio_of_exponent (hnum : num ≠ 0) (he : exponentOf num den = e) (hmax : e < maxExponent) :
    ∃ x, ofRatio negative num den = some x ∧ x.negative = negative ∧
      x.floor = floor ⟨negative, roundDiv (scale num den e).1 (scale num den e).2, e⟩ := by
  unfold ofRatio
  rw [if_neg hnum]
  simp only [he]
  generalize roundDiv (scale num den e).1 (scale num den e).2 = m
  split
  · next heq =>
      have fits : ¬ maxExponent < e + 1 := by omega
      rw [if_neg fits, heq]
      exact ⟨_, rfl, rfl, (floor_double negative).symm⟩
  · have fits : ¬ maxExponent < e := by omega
    rw [if_neg fits]
    exact ⟨_, rfl, rfl, rfl⟩

/-- **The whole part of a rounded quotient.** A quotient below `2 ^ b` keeps its whole part if the next whole number
    is more than half a unit in the last place away. -/
theorem floor_ofRatio (hden : den ≠ 0) (hb : b ≤ 53) (small : num < 2 ^ b * den)
    (far : den < 2 ^ (54 - b) * (den - num % den)) :
    ∃ x, ofRatio negative num den = some x ∧ x.negative = negative ∧ x.floor = num / den := by
  by_cases hnum : num = 0
  · subst hnum
    exact ⟨zero negative, rfl, rfl, by simp [zero, floor, ratio]⟩
  · have hbinade := binade_lt hnum small
    obtain ⟨k, hk⟩ : ∃ k : Nat, exponentOf num den = -(k : Int) := by
      refine ⟨(-exponentOf num den).toNat, ?_⟩
      unfold exponentOf minExponent
      omega
    have hunit : 53 - b ≤ k := by
      unfold exponentOf minExponent at hk
      omega
    have hmax : -(k : Int) < maxExponent := by
      unfold maxExponent
      omega
    obtain ⟨x, hx, hsign, hfloor⟩ := ofRatio_of_exponent negative hnum hk hmax
    have hscale : scale num den (-(k : Int)) = (num * 2 ^ k, den) := by
      have none_ : (-(k : Int)).toNat = 0 := by omega
      simp only [scale, none_, Int.neg_neg, Int.toNat_natCast, Nat.shiftLeft_eq, Nat.pow_zero, Nat.mul_one]
    refine ⟨x, hx, hsign, ?_⟩
    rw [hfloor, floor_of_shift, hscale]
    refine roundDiv_shifted_div hden (Nat.lt_of_lt_of_le far ?_)
    exact Nat.mul_le_mul_right _ (Nat.pow_le_pow_right (by decide) (by omega))

end Binary64

end TeamChat
