import Mathlib.Data.List.Forall2
import Mathlib.Data.List.Induction
import TeamChat.Numeral

/-!
# `Text.Numerals`: numbers read back

What is written with the digits of a base is read back as the number that the digits stand for, leading zeros or
not. A number that fits in a width takes exactly that width once it is filled up with zeros.

## Contents
- `digits_eq_zero_cons`: no number but zero starts with the digit zero.
- `digits_value`: digits of which none is a zero in front are those of their number.
- `value_append`: a number in two parts.
- `filled`: the digits of a number, with zeros in front.
- `length_filled`: how many there are.
- `read?_digits`: what is read back from written digits.
- `Spells`, `read?_eq_some_iff`, `readUnsigned?_eq_some_iff`: which texts are read as numbers.
-/

namespace TeamChat.Numeral

variable {b n w : Nat} {ds : List Nat}

/-! ## One digit -/

theorem digitValue?_digitChar {d : Nat} (hb : b ≤ 16) (hd : d < b) : digitValue? b (digitChar d) = some d := by
  have all : ∀ b' : Fin 17, ∀ d' : Fin 16, d'.val < b'.val → digitValue? b'.val (digitChar d'.val) = some d'.val := by
    decide +kernel
  exact all ⟨b, by omega⟩ ⟨d, by omega⟩ hd

theorem isDigit_digitChar {d : Nat} (hd : d < 10) : (digitChar d).isDigit = true := by
  have all : ∀ d' : Fin 10, (digitChar d'.val).isDigit = true := by decide
  exact all ⟨d, hd⟩

theorem toNat_digitChar {d : Nat} (hd : d < 10) : (digitChar d).toNat - 48 = d := by
  have all : ∀ d' : Fin 10, (digitChar d'.val).toNat - 48 = d'.val := by decide
  exact all ⟨d, hd⟩

/-- No number but zero starts with the digit zero. -/
theorem digits_eq_zero_cons (h : digits b n = 0 :: ds) : ds = [] := by
  fun_induction digits b n generalizing ds with
  | case1 n hn ih =>
      cases hd : digits b (n / b) with
      | nil => exact absurd hd (digits_ne_nil b (n / b))
      | cons e es =>
          rw [hd] at h
          obtain ⟨rfl, rest⟩ := List.cons.inj h
          -- the number in front would be zero, but it is not
          have zero : n / b = 0 := by
            rw [← value_digits b (n / b), hd, ih hd]
            simp [value]
          have := Nat.div_pos hn.2 (by omega : 0 < b)
          omega
  | case2 n hn => exact (List.cons.inj h).2.symm

theorem digits_of_lt (h : n < b) : digits b n = [n] := by
  rw [digits, if_neg (by omega)]

/-- A digit behind a number other than zero stands behind the digits of that number. -/
theorem digits_mul_add {d : Nat} (hb : 2 ≤ b) (hn : 0 < n) (hd : d < b) :
    digits b (n * b + d) = digits b n ++ [d] := by
  have hle : b ≤ n * b + d := Nat.le_trans (Nat.le_mul_of_pos_left b hn) (Nat.le_add_right _ _)
  have hdiv : (n * b + d) / b = n := by
    rw [Nat.mul_comm, Nat.mul_add_div (by omega), Nat.div_eq_of_lt hd, Nat.add_zero]
  have hmod : (n * b + d) % b = d := by
    rw [Nat.mul_comm, Nat.mul_add_mod, Nat.mod_eq_of_lt hd]
  rw [digits.eq_1 b (n * b + d), if_pos ⟨hb, hle⟩, hdiv, hmod]

/-- **Digits are those of the number that they stand for**, unless there are zeros in front. -/
theorem digits_value (hb : 2 ≤ b) (hne : ds ≠ []) (hlt : ∀ d ∈ ds, d < b) (hfront : ∀ r, ds = 0 :: r → r = []) :
    digits b (value b ds) = ds := by
  induction ds using List.reverseRecOn with
  | nil => exact absurd rfl hne
  | append_singleton es d ih =>
      have hd : d < b := hlt d (List.mem_append_right _ List.mem_cons_self)
      rw [value_append_singleton]
      by_cases hes : es = []
      · rw [hes, value_nil, Nat.zero_mul, Nat.zero_add, digits_of_lt hd, List.nil_append]
      · -- more digits follow, so the ones in front do not even start with a zero that stands alone
        have hstart : ∀ r, es ≠ 0 :: r := by
          intro r hr
          have hrest : r ++ [d] = [] := hfront (r ++ [d]) (by rw [hr, List.cons_append])
          exact List.cons_ne_nil d [] (List.append_eq_nil_iff.mp hrest).2
        have hdigits : digits b (value b es) = es :=
          ih hes (fun x hx => hlt x (List.mem_append_left _ hx)) fun r hr => absurd hr (hstart r)
        have hpos : 0 < value b es := by
          refine Nat.pos_of_ne_zero fun hzero => ?_
          rw [hzero, digits_of_lt (by omega)] at hdigits
          exact hstart [] hdigits.symm
        rw [digits_mul_add hb hpos hd, hdigits]

/-! ## Digits in two parts -/

/-- The first part counts as often as the second one has places for. -/
theorem value_append (b : Nat) (ds es : List Nat) :
    value b (ds ++ es) = value b ds * Nat.pow b es.length + value b es := by
  have behind (n : Nat) (es : List Nat) :
      es.foldl (fun n d => n * b + d) n = n * Nat.pow b es.length + value b es := by
    induction es generalizing n with
    | nil => exact (Nat.mul_one n).symm
    | cons e r ih =>
        have first : value b (e :: r) = (0 * b + e) * Nat.pow b r.length + value b r := ih (0 * b + e)
        have power : Nat.pow b (e :: r).length = b * Nat.pow b r.length := Nat.mul_comm _ _
        rw [List.foldl_cons, ih, first, power, Nat.zero_mul, Nat.zero_add, Nat.add_mul, Nat.mul_assoc, Nat.add_assoc]
  show (ds ++ es).foldl _ 0 = _
  rw [List.foldl_append]
  exact behind _ es

/-! ## Digits with zeros in front -/

/-- The digits of a number in a base, filled with leading zeros up to a width. -/
def filled (b w n : Nat) : List Nat :=
  List.replicate (w - (digits b n).length) 0 ++ digits b n

theorem filled_ne_nil (b w n : Nat) : filled b w n ≠ [] := by
  intro h
  exact digits_ne_nil b n (List.append_eq_nil_iff.mp h).2

theorem filled_lt {d : Nat} (hb : 2 ≤ b) (hd : d ∈ filled b w n) : d < b := by
  rcases List.mem_append.mp hd with hd | hd
  · rw [List.eq_of_mem_replicate hd]
    omega
  · exact digits_lt hb hd

theorem value_filled (b w n : Nat) : value b (filled b w n) = n := by
  have zeros (k : Nat) : value b (List.replicate k 0 ++ digits b n) = value b (digits b n) := by
    induction k with
    | zero => rfl
    | succ k ih =>
        rw [← ih, List.replicate_succ]
        simp [value]
  exact (zeros _).trans (value_digits b n)

/-- A number below a power of the base has no more digits than the exponent says. -/
theorem length_digits_le (hb : 2 ≤ b) (hw : 0 < w) (h : n < Nat.pow b w) : (digits b n).length ≤ w := by
  fun_induction digits b n generalizing w with
  | case1 n hn ih =>
      obtain ⟨v, rfl⟩ : ∃ v, w = v + 1 := ⟨w - 1, by omega⟩
      have shorter : n / b < Nat.pow b v := by
        rw [Nat.div_lt_iff_lt_mul (by omega)]
        exact h
      have room : 0 < v := by
        -- a number of one digit would not have been divided
        rcases Nat.eq_zero_or_pos v with rfl | hv
        · have one_digit : n < 1 * b := h
          omega
        · exact hv
      have rest := ih room shorter
      rw [List.length_append]
      exact Nat.add_le_add_right rest 1
  | case2 n hn => exact hw

theorem length_filled (hb : 2 ≤ b) (hw : 0 < w) (h : n < Nat.pow b w) : (filled b w n).length = w := by
  have fits := length_digits_le hb hw h
  simp only [filled, List.length_append, List.length_replicate]
  omega

/-! ## Written digits -/

/-- A number starts with a digit. -/
theorem decimal_cons (n : Nat) : ∃ c cs, decimal n = c :: cs ∧ c.isDigit = true := by
  cases hd : digits 10 n with
  | nil => exact absurd hd (digits_ne_nil 10 n)
  | cons d ds =>
      have small : d < 10 := digits_lt (n := n) (by decide) (hd ▸ List.mem_cons_self)
      exact ⟨digitChar d, ds.map digitChar, by rw [decimal, hd]; rfl, isDigit_digitChar small⟩

theorem padded_eq (w n : Nat) : padded w n = (filled 10 w n).map digitChar := by
  simp [padded, filled, decimal, digitChar]

theorem mapM_digitValue? (hb : b ≤ 16) (hd : ∀ d ∈ ds, d < b) :
    (ds.map digitChar).mapM (digitValue? b) = some ds := by
  induction ds with
  | nil => rfl
  | cons d ds ih =>
      have head := digitValue?_digitChar hb (hd d List.mem_cons_self)
      have tail := ih fun x hx => hd x (List.mem_cons_of_mem _ hx)
      simp [head, tail]

/-- **Written digits are read back** as the number that they stand for. -/
theorem read?_digits (hb : b ≤ 16) (hne : ds ≠ []) (hd : ∀ d ∈ ds, d < b) :
    read? b (ds.map digitChar) = some (value b ds) := by
  unfold read?
  rw [if_neg (by simpa using hne), mapM_digitValue? hb hd]
  rfl

/-- A number filled with zeros is read back. -/
theorem read?_filled (hb : 2 ≤ b) (hb' : b ≤ 16) (w n : Nat) :
    read? b ((filled b w n).map digitChar) = some n := by
  rw [read?_digits hb' (filled_ne_nil b w n) fun d hd => filled_lt hb hd, value_filled]

/-! ## The grammar of numbers -/

section Grammar

variable {d bound : Nat} {x : Char} {s : List Char}

/-- The digits of base sixteen, in lower case and in upper case. -/
def lowerDigits : List Char := "0123456789abcdef".toList

/-- The digits of base sixteen in upper case. -/
def upperDigits : List Char := "0123456789ABCDEF".toList

/-- A character is the digit of a value: it stands at that place among the digits, with letters in either case,
    and the base has that many digits. -/
def IsDigit (b : Nat) (x : Char) (d : Nat) : Prop :=
  d < b ∧ (lowerDigits[d]? = some x ∨ upperDigits[d]? = some x)

/-- A text of digits, at least one, with the number that they stand for. -/
def Spells (b : Nat) (s : List Char) (n : Nat) : Prop :=
  s ≠ [] ∧ ∃ ds, List.Forall₂ (IsDigit b) s ds ∧ value b ds = n

theorem toNat_le_of_le {a c : Char} (h : a ≤ c) : a.toNat ≤ c.toNat := by
  rw [Char.le_def, UInt32.le_iff_toNat_le] at h
  exact h

/-- The digits of a base are found in three ranges. -/
theorem isDigit_of_digitValue? (hb : b ≤ 16) (h : digitValue? b x = some d) : IsDigit b x d := by
  have found {c d : Nat} {ds : List Char} (hd : ds[d]? = some (Char.ofNat c)) (hx : x.toNat = c) : ds[d]? = some x := by
    rw [hd, ← hx, Char.ofNat_toNat]
  have numeral : ∀ e < 10, lowerDigits[e]? = some (Char.ofNat (48 + e)) := by decide
  have lower : ∀ e < 16, 10 ≤ e → lowerDigits[e]? = some (Char.ofNat (87 + e)) := by decide
  have upper : ∀ e < 16, 10 ≤ e → upperDigits[e]? = some (Char.ofNat (55 + e)) := by decide
  unfold digitValue? at h
  simp only [] at h
  obtain ⟨small, hd⟩ := Option.ite_none_right_eq_some.mp h
  have hd := Option.some.inj hd
  rw [hd] at small
  refine ⟨small, ?_⟩
  by_cases h0 : '0' ≤ x ∧ x ≤ '9'
  · have low : 48 ≤ x.toNat := toNat_le_of_le h0.1
    have high : x.toNat ≤ 57 := toNat_le_of_le h0.2
    rw [if_pos h0] at hd
    exact .inl (found (numeral d (by omega)) (by omega))
  · rw [if_neg h0] at hd
    by_cases ha : 'a' ≤ x ∧ x ≤ 'z'
    · have low : 97 ≤ x.toNat := toNat_le_of_le ha.1
      rw [if_pos ha] at hd
      exact .inl (found (lower d (by omega) (by omega)) (by omega))
    · rw [if_neg ha] at hd
      by_cases hA : 'A' ≤ x ∧ x ≤ 'Z'
      · have low : 65 ≤ x.toNat := toNat_le_of_le hA.1
        rw [if_pos hA] at hd
        exact .inr (found (upper d (by omega) (by omega)) (by omega))
      · rw [if_neg hA] at hd
        omega

/-- **The digits of a base** are the characters that stand at their places. -/
theorem digitValue?_eq_some_iff (hb : b ≤ 16) : digitValue? b x = some d ↔ IsDigit b x d := by
  constructor
  · exact isDigit_of_digitValue? hb
  · rintro ⟨hd, hx⟩
    have lower : ∀ b' < 17, ∀ e < b', lowerDigits[e]?.bind (digitValue? b') = some e := by decide +kernel
    have upper : ∀ b' < 17, ∀ e < b', upperDigits[e]?.bind (digitValue? b') = some e := by decide +kernel
    rcases hx with hx | hx
    · have found := lower b (by omega) d hd
      rwa [hx] at found
    · have found := upper b (by omega) d hd
      rwa [hx] at found

theorem mapM_digitValue?_eq_some_iff (hb : b ≤ 16) :
    s.mapM (digitValue? b) = some ds ↔ List.Forall₂ (IsDigit b) s ds := by
  induction s generalizing ds with
  | nil => simp [eq_comm]
  | cons x r ih =>
      rw [List.mapM_cons]
      constructor
      · intro h
        obtain ⟨d, hx, h⟩ := Option.bind_eq_some_iff.mp h
        obtain ⟨rest, hr, h⟩ := Option.bind_eq_some_iff.mp h
        cases h
        exact .cons ((digitValue?_eq_some_iff hb).mp hx) (ih.mp hr)
      · rintro (_ | ⟨hx, hr⟩)
        rw [(digitValue?_eq_some_iff hb).mpr hx, ih.mpr hr]
        rfl

/-- **What is read as a number**: digits, at least one. -/
theorem read?_eq_some_iff (hb : b ≤ 16) : read? b s = some n ↔ Spells b s n := by
  unfold read? Spells
  by_cases hs : s = []
  · simp [hs]
  · rw [if_neg (by simpa using hs), Option.map_eq_some_iff]
    simp only [mapM_digitValue?_eq_some_iff hb]
    exact ⟨fun h => ⟨hs, h⟩, fun h => h.2⟩

/-- A number consists of digits of its base. -/
theorem Spells.mem (h : Spells b s n) : ∀ x ∈ s, x ∈ lowerDigits.take b ∨ x ∈ upperDigits.take b := by
  obtain ⟨-, ds, hds, -⟩ := h
  induction hds with
  | nil => exact fun x hx => absurd hx List.not_mem_nil
  | @cons y d r ds hy _ ih =>
      intro x hx
      rcases List.mem_cons.mp hx with rfl | hx
      · have among {l : List Char} (hl : l[d]? = some x) : x ∈ l.take b := by
          rw [← List.getElem?_take_of_lt hy.1] at hl
          exact List.mem_of_getElem? hl
        exact hy.2.imp among among
      · exact ih x hx

/-- A number consists of letters and digits. -/
theorem Spells.isAlphanum (h : Spells b s n) : ∀ x ∈ s, x.isAlphanum = true := by
  have lower : lowerDigits.all Char.isAlphanum = true := by decide
  have upper : upperDigits.all Char.isAlphanum = true := by decide
  intro x hx
  rcases h.mem x hx with hm | hm
  · exact List.all_eq_true.mp lower x (List.mem_of_mem_take hm)
  · exact List.all_eq_true.mp upper x (List.mem_of_mem_take hm)

theorem Spells.not_plus (h : Spells b s n) : '+' ∉ s := by
  intro hm
  exact absurd (h.isAlphanum '+' hm) (by decide)

/-- **What is read as a number without sign**: digits, with or without a plus sign in front. -/
theorem readUnsigned?_eq_some_iff (hb : b ≤ 16) :
    readUnsigned? b bound s = some n ↔ n < bound ∧ (Spells b s n ∨ ∃ r, s = '+' :: r ∧ Spells b r n) := by
  unfold readUnsigned?
  simp only [Option.filter_eq_some_iff, decide_eq_true_eq]
  rw [and_comm, and_congr_right_iff]
  intro _
  split
  · next r =>
      rw [read?_eq_some_iff hb]
      constructor
      · intro h
        exact .inr ⟨r, rfl, h⟩
      · rintro (h | ⟨_, hr, h⟩)
        · exact absurd List.mem_cons_self h.not_plus
        · cases hr
          exact h
  · next hno =>
      rw [read?_eq_some_iff hb]
      constructor
      · exact .inl
      · rintro (h | ⟨r, hr, _⟩)
        · exact h
        · exact absurd hr (hno r)

end Grammar

end TeamChat.Numeral
