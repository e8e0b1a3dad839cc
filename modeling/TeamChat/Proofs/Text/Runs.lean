import Mathlib.Data.List.Basic
import Mathlib.Data.List.TakeWhile
import TeamChat.Text.Blank
import TeamChat.Text.Word

/-!
# Runs of characters

Texts are read by runs: of word characters, of blanks, or of whatever is no blank. A run is the longest one
there is, which says where a text is cut (`cut_iff`), and what is left of it without the blanks at its end
(`trimEnd_eq_iff`). No character is both a blank and a word character, so a word always ends before a gap.

## Contents
- `cut_iff`: a list is cut behind its longest run.
- `trimEnd_eq_iff`, `trimEnd_append`: a text without the blanks at its end.
- `mark_cases`, `mark_before`: on which side of a cut a mark stands.
- `isWordChar_of_isBlank`, `isBlank_of_isWordChar`: blanks are no word characters.
-/

namespace TeamChat.Text

/-- A list is cut behind its longest run: the first part is a run, and the second does not go on with it. -/
theorem cut_iff {α : Type} {p : α → Bool} {s a b : List α} :
    (s.takeWhile p = a ∧ s.dropWhile p = b) ↔
      s = a ++ b ∧ (∀ x ∈ a, p x = true) ∧ ∀ x ∈ b.head?, p x = false := by
  constructor
  · rintro ⟨rfl, rfl⟩
    refine ⟨List.takeWhile_append_dropWhile.symm, fun x hx => List.mem_takeWhile_imp hx, fun x hx => ?_⟩
    have hnot := List.head?_dropWhile_not p s
    rw [Option.mem_def.mp hx] at hnot
    simpa using hnot
  · rintro ⟨rfl, ha, hb⟩
    rw [List.takeWhile_append_of_pos ha, List.dropWhile_append_of_pos ha]
    cases b with
    | nil => simp
    | cons x r =>
        have hx : p x = false := hb x rfl
        simp [hx]

/-- A text without the blanks at its end: it does not end in a blank, and only blanks are missing. -/
theorem trimEnd_eq_iff {s x : List Char} :
    trimEnd s = x ↔
      (∀ c ∈ x.getLast?, isBlank c = false) ∧ ∃ tail, (∀ c ∈ tail, isBlank c = true) ∧ s = x ++ tail := by
  constructor
  · rintro rfl
    obtain ⟨hs, hrun, _⟩ := (cut_iff (p := isBlank) (s := s.reverse)).mp ⟨rfl, rfl⟩
    refine ⟨fun c hc => isBlank_getLast_trimEnd hc, (s.reverse.takeWhile isBlank).reverse, ?_, ?_⟩
    · intro c hc
      exact hrun c (List.mem_reverse.mp hc)
    · rw [trimEnd, ← List.reverse_append, ← hs, List.reverse_reverse]
  · rintro ⟨hx, tail, htail, rfl⟩
    have hcut : (x ++ tail).reverse = tail.reverse ++ x.reverse := List.reverse_append
    have hdrop := (cut_iff.mpr ⟨hcut, fun c hc => htail c (List.mem_reverse.mp hc), fun c hc => ?_⟩).2
    · rw [trimEnd, hdrop, List.reverse_reverse]
    · rw [List.head?_reverse] at hc
      exact hx c hc

/-- Blanks are only cut off as far as they stand at the end. -/
theorem trimEnd_append {a b : List Char} (ha : ∀ c ∈ a.getLast?, isBlank c = false) :
    trimEnd (a ++ b) = a ++ trimEnd b := by
  obtain ⟨hends, tail, htail, hb⟩ := trimEnd_eq_iff.mp (rfl : trimEnd b = trimEnd b)
  refine trimEnd_eq_iff.mpr ⟨fun c hc => ?_, tail, htail, ?_⟩
  · by_cases hne : trimEnd b = []
    · rw [hne, List.append_nil] at hc
      exact ha c hc
    · rw [List.getLast?_append_of_ne_nil _ hne] at hc
      exact hends c hc
  · rw [List.append_assoc, ← hb]

/-! ## Marks -/

section Mark

variable {α : Type} {s t a b : List α} {x m : α}

/-- In two texts, one behind the other, a mark stands in the first one or in the second one. -/
theorem mark_cases (h : s ++ t = a ++ m :: b) :
    (∃ more, s = a ++ m :: more ∧ b = more ++ t) ∨ ∃ more, a = s ++ more ∧ t = more ++ m :: b := by
  obtain ⟨more, ha, ht⟩ | ⟨more, hs, hb⟩ := List.append_eq_append_iff.mp h
  · exact .inr ⟨more, ha, ht⟩
  · cases more with
    | nil =>
        rw [List.append_nil] at hs
        exact .inr ⟨[], by rw [hs, List.append_nil], hb.symm⟩
    | cons y more =>
        obtain ⟨rfl, htail⟩ := List.cons.inj hb
        exact .inl ⟨more, hs, htail⟩

/-- What ends at a mark does not reach over a character that is neither the mark nor in front of it. -/
theorem mark_before (h : s ++ x :: t = a ++ m :: b) (hm : x ≠ m) (ha : x ∉ a) :
    ∃ more, s = a ++ m :: more ∧ b = more ++ x :: t := by
  rcases mark_cases h with hs | ⟨more, rfl, ht⟩
  · exact hs
  · cases more with
    | nil => exact absurd (List.cons.inj ht).1 hm
    | cons y more =>
        obtain ⟨rfl, _⟩ := List.cons.inj ht
        exact absurd (by simp) ha

end Mark

/-! ## Blanks and words -/

/-- A character of one table is not in another if their ranges lie apart. -/
theorem Ranges.not_contains_of_disjoint {s t : Ranges} {c : Char}
    (h : (s.all fun a => t.all fun b => a.2 < b.1 || b.2 < a.1) = true) (hc : s.contains c = true) :
    t.contains c = false := by
  obtain ⟨a, ha, hac⟩ := List.any_eq_true.mp hc
  refine List.any_eq_false.mpr fun b hb hbc => ?_
  have hab := List.all_eq_true.mp (List.all_eq_true.mp h a ha) b hb
  simp only [Bool.and_eq_true, Bool.or_eq_true, decide_eq_true_eq] at hac hbc hab
  omega

/-- A blank is no word character. -/
theorem isWordChar_of_isBlank {c : Char} (h : isBlank c = true) : isWordChar c = false := by
  unfold isWordChar
  split
  · next hascii =>
      have hall : ∀ n < 128, isBlank (Char.ofNat n) = true →
          ((Char.ofNat n).isAlphanum || Char.ofNat n == '_') = false := by decide +kernel
      have hc := hall c.toNat hascii
      rw [Char.ofNat_toNat] at hc
      exact hc h
  · exact Ranges.not_contains_of_disjoint (by decide +kernel) h

theorem isBlank_of_isWordChar {c : Char} (h : isWordChar c = true) : isBlank c = false := by
  by_contra hb
  rw [isWordChar_of_isBlank (by simpa using hb)] at h
  exact absurd h (by simp)

end TeamChat.Text
