import TeamChat.Proofs.Binary64.Rounding
import TeamChat.Proofs.Text.Numerals
import TeamChat.Proofs.Text.Runs
import TeamChat.Proofs.Thread.Words

/-!
# `Stamp.seconds`: timestamps as the service writes them

A timestamp is read as a binary number, which is cut to whole seconds. The binary number nearest to a decimal may lie
above it. But below ten billion seconds its unit in the last place is `2 ^ -19` seconds at most, and half of that is
less than a microsecond. So no fraction of six digits is rounded up to the next second, and the whole seconds of a
timestamp are those that are written before its point.

## Contents
- `Binary64.readDecimal?_digits`, `ofText?_digit`: digits with a point among them, and the decimal that they denote.
- `Binary64.nearest_micros`: the whole part of the number nearest to a decimal with six digits behind the point.
- `Stamp.written`, `reading?_written`: a timestamp, and what it is read as.
- `Stamp.second_of_written`: alias and time of a timestamp.
-/

namespace TeamChat

open Numeral (digitChar padded filled value)

namespace Binary64

variable {ds es : List Nat} {d : Nat} {r : List Char}

/-! ## Reading digits -/

theorem isDigit_of_mem_map (hd : ∀ d ∈ ds, d < 10) : ∀ c ∈ ds.map digitChar, c.isDigit = true := by
  intro c hc
  obtain ⟨d, hm, rfl⟩ := List.mem_map.mp hc
  exact Numeral.isDigit_digitChar (hd d hm)

/-- **Digits with a point among them** denote the number of all digits, scaled down by the digits behind the point. -/
theorem readDecimal?_digits (negative : Bool) (hds : ds ≠ []) (hd : ∀ d ∈ ds, d < 10) (he : ∀ e ∈ es, e < 10) :
    readDecimal? negative (ds.map digitChar ++ '.' :: es.map digitChar) =
      some ⟨negative, value 10 (ds ++ es), -(es.length : Int)⟩ := by
  have point : ∀ c ∈ ('.' :: es.map digitChar).head?, c.isDigit = false := by
    intro c hc
    cases hc
    rfl
  obtain ⟨whole, behind⟩ := Text.cut_iff.mpr ⟨rfl, isDigit_of_mem_map hd, point⟩
  have all : es.map digitChar = es.map digitChar ++ [] := (List.append_nil _).symm
  obtain ⟨fraction, rest⟩ := Text.cut_iff.mpr ⟨all, isDigit_of_mem_map he, fun c hc => by cases hc⟩
  have digits : Numeral.read? 10 (ds.map digitChar ++ es.map digitChar) = some (value 10 (ds ++ es)) := by
    rw [← List.map_append]
    refine Numeral.read?_digits (by decide) (by simp [hds]) ?_
    intro d hm
    exact (List.mem_append.mp hm).elim (hd d) (he d)
  simp only [readDecimal?, whole, behind, fraction, rest, digits, readExponent?, List.length_map, Int.zero_sub]

/-- A text that starts with a digit has no sign and is no word. -/
theorem ofText?_digit (hd : d < 10) :
    Reading.ofText? (digitChar d :: r) = (readDecimal? false (digitChar d :: r)).map Decimal.nearest := by
  have all : ∀ e : Fin 10, digitChar e.val ≠ '-' ∧ digitChar e.val ≠ '+' ∧ (digitChar e.val).toLower ≠ 'i' ∧
      (digitChar e.val).toLower ≠ 'n' := by decide
  obtain ⟨hminus, hplus, hi, hn⟩ := all ⟨d, hd⟩
  have sign : readSign (digitChar d :: r) = (false, digitChar d :: r) := by
    unfold readSign
    split
    · next h => exact absurd (List.cons.inj h).1 hminus
    · next h => exact absurd (List.cons.inj h).1 hplus
    · rfl
  simp only [Reading.ofText?, sign, List.map_cons, List.cons.injEq, hi, hn, false_and, or_self, if_false]

/-! ## Six digits behind the point -/

/-- **The whole part of the number nearest to a decimal with six digits behind the point** is the one that is written
    before it. -/
theorem nearest_micros {seconds micros : Nat} (hs : seconds < 10000000000) (hm : micros < 1000000) :
    ∃ x, Decimal.nearest ⟨false, seconds * 1000000 + micros, -6⟩ = .finite x ∧ x.negative = false ∧
      x.floor = seconds := by
  by_cases hzero : seconds * 1000000 + micros = 0
  · obtain ⟨rfl, rfl⟩ : seconds = 0 ∧ micros = 0 := by omega
    exact ⟨zero false, rfl, rfl, rfl⟩
  · have small : seconds * 1000000 + micros < Nat.pow 10 16 := by
      show seconds * 1000000 + micros < 10000000000000000
      omega
    have places : (Numeral.decimal (seconds * 1000000 + micros)).length ≤ 16 := by
      rw [Numeral.decimal, List.length_map]
      exact Numeral.length_digits_le (by decide) (by decide) small
    -- a millionth is more than half a unit in the last place of a number below `2 ^ 34`
    have below : seconds * 1000000 + micros < 2 ^ 34 * 1000000 := by omega
    have far : 1000000 < 2 ^ (54 - 34) * (1000000 - (seconds * 1000000 + micros) % 1000000) := by omega
    obtain ⟨x, hx, hsign, hfloor⟩ := floor_ofRatio false (by decide) (by decide) below far
    have shown : Decimal.nearest ⟨false, seconds * 1000000 + micros, -6⟩ = .finite x := by
      have scale : (-6 : Int).toNat = 0 := rfl
      have unit : Numeral.powerOfTen (-(-6 : Int)).toNat = 1000000 := rfl
      simp only [Decimal.nearest]
      rw [if_neg (by omega), if_neg (by omega), scale, Numeral.powerOfTen_zero, Nat.mul_one, unit, hx]
    exact ⟨x, shown, hsign, by omega⟩

end Binary64

namespace Stamp

/-- A timestamp as the service writes it: whole seconds, which may be filled with zeros up to a width, a point, and
    six digits. -/
def written (width seconds micros : Nat) : String :=
  String.ofList (padded width seconds ++ '.' :: padded 6 micros)

/-- **A timestamp is read** as the number nearest to it. -/
theorem reading?_written (width seconds : Nat) {micros : Nat} (hm : micros < 1000000) :
    reading? (written width seconds micros) =
      some (Binary64.Decimal.nearest ⟨false, seconds * 1000000 + micros, -6⟩) := by
  have six : (filled 10 6 micros).length = 6 := Numeral.length_filled (by decide) (by decide) hm
  have number : value 10 (filled 10 width seconds ++ filled 10 6 micros) = seconds * 1000000 + micros := by
    rw [Numeral.value_append, Numeral.value_filled, Numeral.value_filled, six]
  have decimal := Binary64.readDecimal?_digits false (Numeral.filled_ne_nil 10 width seconds)
    (fun d hd => Numeral.filled_lt (by decide) hd) (fun e (he : e ∈ filled 10 6 micros) => Numeral.filled_lt (by decide) he)
  rw [number, six] at decimal
  rw [reading?, written, String.toList_ofList, Numeral.padded_eq, Numeral.padded_eq]
  -- the text starts with the first digit of the seconds
  cases hf : filled 10 width seconds with
  | nil => exact absurd hf (Numeral.filled_ne_nil 10 width seconds)
  | cons d ds =>
      have first : d < 10 := Numeral.filled_lt (n := seconds) (w := width) (by decide) (hf ▸ List.mem_cons_self)
      rw [hf, List.map_cons, List.cons_append] at decimal
      rw [List.map_cons, List.cons_append, Binary64.ofText?_digit first, decimal]
      rfl

/-- Below ten billion seconds a timestamp has the whole seconds that are written before its point. -/
theorem seconds_written (width : Nat) {whole micros : Nat} (hs : whole < 10000000000) (hm : micros < 1000000) :
    seconds (written width whole micros) = whole ∧ signedSeconds (written width whole micros) = whole := by
  obtain ⟨x, hx, hsign, hfloor⟩ := Binary64.nearest_micros hs hm
  have reads : reading? (written width whole micros) = some (.finite x) := by
    rw [reading?_written width whole hm, hx]
  have top : UInt64.size = 18446744073709551616 := rfl
  have least : Int64.minValue.toInt = -9223372036854775808 := rfl
  have greatest : Int64.maxValue.toInt = 9223372036854775807 := rfl
  constructor
  · unfold seconds
    simp only [reads, hsign, hfloor]
    rw [if_neg (by decide)]
    omega
  · unfold signedSeconds
    simp only [reads, Binary64.truncate, hsign, hfloor]
    rw [if_neg (by decide)]
    omega

theorem instant_written (width : Nat) {whole micros : Nat} (hs : whole < 10000000000) (hm : micros < 1000000) :
    instant (written width whole micros) = ⟨whole, 0⟩ := by
  have shown : Calendar.Instant.isRepresentable whole = true := by
    simp only [Calendar.Instant.isRepresentable, Bool.and_eq_true, decide_eq_true_eq]
    omega
  rw [instant, (seconds_written width hs hm).2, Calendar.Instant.ofSeconds?, if_pos shown]
  rfl

/-- **Alias and time of a timestamp.** The alias is the word of the whole seconds and the time is that many seconds
    behind the start of 1970, whichever six digits follow. So two timestamps share an alias exactly if they share the
    whole second, which is exactly if they are shown at the same time. -/
theorem second_of_written (width width' : Nat) {whole whole' micros micros' : Nat} (hs : whole < 10000000000)
    (hm : micros < 1000000) (hs' : whole' < 10000000000) (hm' : micros' < 1000000) :
    Thread.aliasOf (written width whole micros) = Thread.word whole ∧
      instant (written width whole micros) = ⟨whole, 0⟩ ∧
      (Thread.aliasOf (written width whole micros) = Thread.aliasOf (written width' whole' micros') ↔ whole = whole') ∧
      (instant (written width whole micros) = instant (written width' whole' micros') ↔ whole = whole') := by
  have first : Thread.aliasOf (written width whole micros) = Thread.word whole := by
    rw [Thread.aliasOf, (seconds_written width hs hm).1]
  have second : Thread.aliasOf (written width' whole' micros') = Thread.word whole' := by
    rw [Thread.aliasOf, (seconds_written width' hs' hm').1]
  refine ⟨first, instant_written width hs hm, ?_, ?_⟩
  · rw [first, second, Thread.word_inj]
  · rw [instant_written width hs hm, instant_written width' hs' hm', Calendar.Instant.mk.injEq]
    omega

/-- The last microsecond of the last second, and of the second before it. -/
theorem second_of_last_micros :
    9999999999 < 10000000000 ∧ 999999 < 1000000 ∧ 9999999998 < 10000000000 ∧
      written 0 9999999999 999999 = "9999999999.999999" ∧ written 12 9999999998 999999 = "009999999998.999999" ∧
      Thread.aliasOf "9999999999.999999" = "k5U9YJ" ∧ instant "9999999999.999999" = ⟨9999999999, 0⟩ ∧
      Thread.aliasOf "9999999999.999999" ≠ Thread.aliasOf "009999999998.999999" ∧
      instant "9999999999.999999" ≠ instant "009999999998.999999" := by
  have last : written 0 9999999999 999999 = "9999999999.999999" := by decide +kernel
  have before : written 12 9999999998 999999 = "009999999998.999999" := by decide +kernel
  have word : Thread.word 9999999999 = "k5U9YJ" := by decide +kernel
  have micros : 999999 < 1000000 := by decide
  obtain ⟨halias, htime, same, same'⟩ := second_of_written 0 12 (show 9999999999 < 10000000000 by decide) micros
    (show 9999999998 < 10000000000 by decide) micros
  rw [last] at halias htime
  rw [last, before] at same same'
  refine ⟨by decide, micros, by decide, last, before, halias.trans word, htime, ?_, ?_⟩
  · intro h
    exact absurd (same.mp h) (by decide)
  · intro h
    exact absurd (same'.mp h) (by decide)

end Stamp

end TeamChat
