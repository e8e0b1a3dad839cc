import Mathlib.Algebra.Group.Nat.Even
import TeamChat.Proofs.Emoji.Table

/-!
# `Emoji.namesBefore`: whose colon it is

A colon can end one code and begin another, but it does only one of these. Where several names stand in a row, each
between two colons, the first two colons go with the first name, the next two with the third name, and so on, whether
the names are known or not. So a code is replaced exactly if the number of names in front of it, counted back to where
the row begins, is even (`replace_known`). Behind a name that is not known a known code is passed over, although
nothing is shown in the place of the first one (`known_behind_unknown`).

## Contents
- `Emoji.namesBefore`: how many names stand in a row in front of a colon.
- `Emoji.replaceList_colon_behind`: whose colon it is.
- `Emoji.replaceList_known`, `replaceList_passed_over`: a known code behind a row of names.
- `Emoji.Alone`, `known_behind_unknown`: a code that overlaps no other known one, and is passed over.
- `Emoji.replace_known`: when a known code is replaced.
-/

namespace TeamChat.Emoji

variable {s t name rest before : List Char}

/-! ## Names in a row -/

/-- How many names stand in a row at the beginning of a text, each with a colon behind it. -/
def row (s : List Char) : Nat :=
  match h : code? s with
  | some (_, rest) =>
    have := length_lt_of_code? h
    row rest + 1
  | none => 0
termination_by s.length

/-- How many names stand in a row at the end of a text, each with a colon in front of it. Read backwards, the colon
    stands behind the name. -/
def namesBefore (s : List Char) : Nat :=
  row s.reverse

theorem row_of_code (h : code? s = some (name, rest)) : row s = row rest + 1 := by
  rw [row]
  split
  · next name' rest' h' =>
      cases h.symm.trans h'
      rfl
  · next h' => exact absurd (h.symm.trans h') (by simp)

theorem row_of_no_code (h : code? s = none) : row s = 0 := by
  rw [row]
  split
  · next h' => exact absurd (h.symm.trans h') (by simp)
  · rfl

/-- A text that ends with a colon and a name, read backwards. -/
theorem code?_reverse_eq_some_iff :
    code? s.reverse = some (name.reverse, before.reverse) ↔
      s = before ++ ':' :: name ∧ name ≠ [] ∧ ∀ c ∈ name, isCodeChar c = true := by
  have hback : s.reverse = name.reverse ++ ':' :: before.reverse ↔ s = before ++ ':' :: name := by
    rw [← List.reverse_inj, List.reverse_reverse, List.reverse_append, List.reverse_cons, List.reverse_reverse,
      List.reverse_reverse, List.append_assoc, List.singleton_append]
  rw [code?_eq_some_iff, hback]
  simp only [ne_eq, List.reverse_eq_nil_iff, List.mem_reverse]

/-- One name more. -/
theorem namesBefore_append (hne : name ≠ []) (hrun : ∀ c ∈ name, isCodeChar c = true) :
    namesBefore (before ++ ':' :: name) = namesBefore before + 1 :=
  row_of_code (code?_reverse_eq_some_iff.mpr ⟨rfl, hne, hrun⟩)

/-- **A row of names, from its beginning**: no name stands there, or one behind a shorter row. -/
theorem row_cases (s : List Char) :
    (namesBefore s = 0 ∧ ∀ before run, s = before ++ ':' :: run → (∀ c ∈ run, isCodeChar c = true) → run = []) ∨
      ∃ before name, s = before ++ ':' :: name ∧ name ≠ [] ∧ (∀ c ∈ name, isCodeChar c = true) ∧
        namesBefore s = namesBefore before + 1 := by
  cases h : code? s.reverse with
  | some p =>
      obtain ⟨name, rest⟩ := p
      have hcode : code? s.reverse = some (name.reverse.reverse, rest.reverse.reverse) := by
        rw [h, List.reverse_reverse, List.reverse_reverse]
      obtain ⟨hs, hne, hrun⟩ := code?_reverse_eq_some_iff.mp hcode
      exact .inr ⟨rest.reverse, name.reverse, hs, hne, hrun, hs ▸ namesBefore_append hne hrun⟩
  | none =>
      refine .inl ⟨?_, fun before run hs hrun => ?_⟩
      · exact row_of_no_code h
      · by_contra hne
        exact absurd (h.symm.trans (code?_reverse_eq_some_iff.mpr ⟨hs, hne, hrun⟩)) (by simp)

/-! ## Whose colon it is -/

/-- A name is copied up to the colon behind it, if the colon in front of it is taken. -/
theorem replaceList_name (hrun : ∀ c ∈ name, isCodeChar c = true) :
    replaceList (name ++ t) = name ++ replaceList t := by
  have hapart : Apart name t := by
    rintro before run hs -
    exact absurd (by simp [hs]) (colon_not_mem hrun)
  rw [replaceList_append hapart, replaceList_plain (colon_not_mem hrun)]

/-- **Whose colon it is.** Behind an even number of names a colon is free; behind an odd number it ends the code of the
    last one. The induction is on the row of names: each of them turns one case into the other. -/
theorem replaceList_colon_behind (s : List Char) :
    (Even (namesBefore s) → ∀ t, replaceList (s ++ ':' :: t) = replaceList s ++ replaceList (':' :: t)) ∧
      (¬ Even (namesBefore s) → ∀ t, replaceList (s ++ ':' :: t) = replaceList (s ++ [':']) ++ replaceList t) := by
  obtain ⟨hzero, hnone⟩ | ⟨before, name, hs, hne, hrun, hcount⟩ := row_cases s
  · have hzero : Even (namesBefore s) := hzero ▸ Even.zero
    refine ⟨fun _ t => replaceList_append ?_, fun hodd => absurd hzero hodd⟩
    intro before run hs hrun
    rw [hnone before run hs hrun]
    exact code?_cons (by decide)
  · have hlt : before.length < s.length := by
      rw [hs, List.length_append, List.length_cons]
      omega
    obtain ⟨heven, hodd⟩ := replaceList_colon_behind before
    have hassoc (t : List Char) : s ++ ':' :: t = before ++ ':' :: (name ++ ':' :: t) := by
      rw [hs, List.append_assoc, List.cons_append]
    rw [hcount, Nat.even_add_one, not_not]
    refine ⟨fun hbefore t => ?_, fun hbefore t => ?_⟩
    · have hcopied : replaceList s = replaceList (before ++ [':']) ++ name := by
        have hend := replaceList_name (t := []) hrun
        rw [List.append_nil, replaceList_plain List.not_mem_nil, List.append_nil] at hend
        rw [hs, hodd hbefore, hend]
      rw [hassoc, hodd hbefore, replaceList_name hrun, hcopied, List.append_assoc]
    · rw [hassoc, hassoc, heven hbefore, heven hbefore, replaceList_of_code (code?_name hne hrun),
        replaceList_of_code (code?_name hne hrun), replaceList_plain List.not_mem_nil, List.append_nil,
        List.append_assoc]
termination_by s.length

/-! ## Known codes -/

section Known

variable {code emoji : String} (h : (code, emoji) ∈ table) (hcode : code.toList = written name) (hne : name ≠ [])
  (hrun : ∀ c ∈ name, isCodeChar c = true)

include h hcode hne hrun in
/-- Behind an even number of names a known code is replaced. -/
theorem replaceList_known (heven : Even (namesBefore s)) :
    replaceList (s ++ written name ++ t) = replaceList s ++ emoji.toList ++ replaceList t := by
  rw [List.append_assoc, written_append, (replaceList_colon_behind s).1 heven, ← written_append,
    replaceList_written hne hrun, shown_of_mem h hcode, List.append_assoc]

include hrun in
/-- Behind an odd number of names a code has lost its first colon, and its name is copied. -/
theorem replaceList_passed_over (hodd : ¬ Even (namesBefore s)) :
    replaceList (s ++ written name ++ t) = replaceList (s ++ [':']) ++ name ++ replaceList (':' :: t) := by
  rw [List.append_assoc, written_append, (replaceList_colon_behind s).2 hodd, replaceList_name hrun, List.append_assoc]

include h hrun in
/-- Then something else is shown: the code in front is shown with the colon behind it, or in its place an emoji. -/
theorem replaceList_ne_of_odd (hodd : ¬ Even (namesBefore s)) :
    replaceList (s ++ written name ++ t) ≠ replaceList s ++ emoji.toList ++ replaceList t := by
  obtain ⟨hzero, _⟩ | ⟨before, last, hs, hlast, hlastRun, hcount⟩ := row_cases s
  · exact absurd (hzero ▸ Even.zero) hodd
  · have heven : Even (namesBefore before) := by
      rw [hcount, Nat.even_add_one, not_not] at hodd
      exact hodd
    have hcolon := (replaceList_colon_behind before).1 heven
    have hopen : replaceList s = replaceList before ++ ':' :: last := by
      rw [hs, hcolon, replaceList_of_no_code (code?_run hlastRun), replaceList_plain (colon_not_mem hlastRun)]
    have hclosed : replaceList (s ++ [':']) = replaceList before ++ shown last := by
      rw [hs, List.append_assoc, List.cons_append, hcolon, replaceList_of_code (code?_name hlast hlastRun),
        replaceList_plain List.not_mem_nil, List.append_nil]
    obtain ⟨x, r, hx, hxstops⟩ := head_of_mem h
    rw [replaceList_passed_over hrun hodd, hopen, hclosed, hx]
    simp only [List.append_assoc, List.cons_append, ne_eq, List.append_cancel_left_eq]
    obtain ⟨first, hmem, hshown⟩ | ⟨_, hshown⟩ := shown_cases last
    · -- an emoji stands where the colon of the code in front would be
      obtain ⟨y, r', hy, hystops⟩ := head_of_mem hmem
      rw [hshown, hy]
      intro heq
      exact (stops_iff.mp hystops).2 (List.cons.inj heq).1
    · -- a colon stands where the emoji would be
      rw [hshown, written]
      intro heq
      simp only [List.cons_append, List.append_assoc, List.cons.injEq, true_and, List.nil_append,
        List.append_cancel_left_eq] at heq
      exact (stops_iff.mp hxstops).2 heq.1.symm

end Known

/-! ## Codes that overlap no other -/

/-- No other code of the table overlaps the one that stands between two texts. -/
def Alone (before code after : String) : Prop :=
  ∀ before' code' emoji' after', (code', emoji') ∈ table → before ++ code ++ after = before' ++ code' ++ after' →
    before'.length < before.length + code.length → before.length < before'.length + code'.length →
      before' = before ∧ code' = code

/-- Behind a time of day, with nothing between them, a code stands alone: the only other name between colons is that of
    the minutes, which is not known. -/
theorem alone_behind_time : Alone "10:30" ":smile:" "" := by
  intro before code emoji after hmem hwhole hends _
  obtain ⟨name, hcode, hne, hrun⟩ := written_of_mem hmem
  let text := "10:30:smile:".toList
  let k := before.toList.length
  have htext : text = before.toList ++ ':' :: (name ++ ':' :: after.toList) := by
    have hjoin : "10:30" ++ ":smile:" ++ "" = "10:30:smile:" := by decide
    rw [hjoin] at hwhole
    show "10:30:smile:".toList = _
    rw [hwhole, String.toList_append, String.toList_append, hcode, List.append_assoc, written_append]
  have htake : text.take k = before.toList := htext ▸ List.take_left
  have hdrop : text.drop k = ':' :: (name ++ ':' :: after.toList) := htext ▸ List.drop_left
  have hname : code? (text.drop (k + 1)) = some (name, after.toList) := by
    rw [← List.drop_drop, hdrop]
    exact code?_name hne hrun
  -- the code begins at one of the colons, that is behind two characters, five or eleven
  have hplace : k = 2 ∨ k = 5 ∨ k = 11 := by
    have hcolons : ∀ k < 12, (text.drop k).head? = some ':' → k = 2 ∨ k = 5 ∨ k = 11 := by decide
    have hk : k < 12 := by
      show before.toList.length < 12
      rwa [String.length_toList]
    exact hcolons k hk (by rw [hdrop]; rfl)
  obtain hk | hk | hk := hplace
  · rw [hk] at hname
    have hminutes : code? (text.drop 3) = some (['3', '0'], ['s', 'm', 'i', 'l', 'e', ':']) := by decide
    obtain ⟨rfl, _⟩ := Prod.mk.inj (Option.some.inj (hminutes.symm.trans hname))
    have hunknown : ∀ e ∈ table.toList, e.1.toList ≠ written ['3', '0'] := by decide +kernel
    exact absurd hcode (hunknown (code, emoji) (Array.mem_toList_iff.mpr hmem))
  · rw [hk] at hname htake
    have hsmile : code? (text.drop 6) = some (['s', 'm', 'i', 'l', 'e'], []) := by decide
    obtain ⟨rfl, _⟩ := Prod.mk.inj (Option.some.inj (hsmile.symm.trans hname))
    exact ⟨String.toList_inj.mp htake.symm, String.toList_inj.mp hcode⟩
  · rw [hk] at hname
    have hnothing : code? (text.drop 12) = none := by decide
    exact absurd (hnothing.symm.trans hname) (by simp)

/-- **A known code is passed over behind a name that is not known**, although no other known code overlaps it. -/
theorem known_behind_unknown :
    ¬ ∀ before code after emoji, (code, emoji) ∈ table → Alone before code after →
      replace (before ++ code ++ after) = replace before ++ emoji ++ replace after := by
  intro h
  have hmem : (":smile:", "😄") ∈ table := by decide +kernel
  have hreplaced := h "10:30" ":smile:" "" "😄" hmem alone_behind_time
  have hcopied : replace ("10:30" ++ ":smile:" ++ "") ≠ replace "10:30" ++ "😄" ++ replace "" := by decide +kernel
  exact hcopied hreplaced

/-! ## When a known code is replaced -/

/-- **When a known code is replaced.** A code of the table that stands anywhere in a text is replaced by its emoji, and
    the text on both sides of it as if it stood by itself, exactly if an even number of names stands in a row in front
    of the code; what stands behind it plays no part in this. Otherwise its name is copied: the colon in front of it
    belongs to the text before it, and the one behind it to the text after it. -/
theorem replace_known {code emoji : String} (h : (code, emoji) ∈ table) (before after : String) :
    (replace (before ++ code ++ after) = replace before ++ emoji ++ replace after ↔
        Even (namesBefore before.toList)) ∧
      ∃ name, code = ":" ++ name ++ ":" ∧
        (¬ Even (namesBefore before.toList) →
          replace (before ++ code ++ after) = replace (before ++ ":") ++ name ++ replace (":" ++ after)) := by
  obtain ⟨name, hcode, hne, hrun⟩ := written_of_mem h
  have hwhole : (replace (before ++ code ++ after)).toList =
      replaceList (before.toList ++ written name ++ after.toList) := by
    rw [toList_replace, String.toList_append, String.toList_append, hcode]
  refine ⟨?_, String.ofList name, ?_, ?_⟩
  · rw [← String.toList_inj, hwhole, String.toList_append, String.toList_append, toList_replace, toList_replace]
    constructor
    · intro heq
      by_contra hodd
      exact replaceList_ne_of_odd h hrun hodd heq
    · exact replaceList_known h hcode hne hrun
  · rw [← String.toList_inj, hcode]
    simp only [String.toList_append, String.toList_ofList]
    rfl
  · intro hodd
    rw [← String.toList_inj, hwhole, replaceList_passed_over hrun hodd]
    simp only [String.toList_append, String.toList_ofList, toList_replace]
    rfl

/-- Behind a time of day and one more name a code is replaced. -/
theorem replace_known_behind_two : (":smile:", "😄") ∈ table ∧ Even (namesBefore "at 10:30:a".toList) ∧
    replace ("at 10:30:a" ++ ":smile:" ++ ":30") = replace "at 10:30:a" ++ "😄" ++ replace ":30" := by
  have hmem : (":smile:", "😄") ∈ table := by decide +kernel
  have heven : Even (namesBefore "at 10:30:a".toList) := by decide +kernel
  exact ⟨hmem, heven, (replace_known hmem "at 10:30:a" ":30").1.mpr heven⟩

end TeamChat.Emoji
