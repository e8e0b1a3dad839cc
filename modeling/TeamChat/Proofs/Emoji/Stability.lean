import TeamChat.Proofs.Emoji.Table

/-!
# `Emoji.replaceList`: nothing but codes is replaced, and nothing twice

A text is taken apart from left to right into codes of the table and characters that are copied (`Replaced`). When the
result is read once more the same codes are found in it, without those that were replaced: an emoji stops every code,
and where no code began before none begins now, since the name that stands behind a colon is copied with whatever ends
it (`code?_replaceList`).

## Contents
- `Emoji.Replaced`, `replaced_replaceList`: codes replaced and all else copied.
- `Emoji.code?_replaceList`, `replaceList_replaceList`: reading the result once more.
- `Emoji.replace_stable`: the statements together.
-/

namespace TeamChat.Emoji

variable {s t out rest name : List Char} {code emoji : String} {c : Char}

/-! ## What is replaced -/

/-- **Codes of the table replaced by their emoji**, one behind the other, and every other character copied. -/
inductive Replaced : List Char → List Char → Prop
  | nil : Replaced [] []
  | code {code emoji : String} {s out : List Char} (h : (code, emoji) ∈ table) (behind : Replaced s out) :
      Replaced (code.toList ++ s) (emoji.toList ++ out)
  | copied (c : Char) {s out : List Char} (behind : Replaced s out) : Replaced (c :: s) (c :: out)

/-- A text in front may be copied. -/
theorem Replaced.copy (t : List Char) (h : Replaced s out) : Replaced (t ++ s) (t ++ out) := by
  induction t with
  | nil => exact h
  | cons c r ih => exact .copied c ih

theorem replaced_replaceList : Replaced s (replaceList s) := by
  fun_induction replaceList s with
  | case1 => exact .nil
  | case2 s name rest h _ ih =>
      obtain ⟨hs, _, _⟩ := code?_eq_some_iff.mp h
      have hwhole : ':' :: s = written name ++ rest := by rw [hs, written_append]
      rw [hwhole]
      obtain ⟨emoji, hmem, hshown⟩ | ⟨_, hshown⟩ := shown_cases name
      · have hcode := Replaced.code hmem ih
        rwa [String.toList_ofList, ← hshown] at hcode
      · rw [hshown]
        exact ih.copy (written name)
  | case3 s h ih => exact .copied ':' ih
  | case4 c s h ih => exact .copied c ih

/-- A code of the table alone is replaced by its emoji. -/
theorem replace_of_mem (h : (code, emoji) ∈ table) : replace code = emoji := by
  obtain ⟨name, hcode, hne, hrun⟩ := written_of_mem h
  have hnothing : replaceList [] = [] := replaceList_plain List.not_mem_nil
  have halone : replaceList (written name) = emoji.toList := by
    have hshown := replaceList_written (t := []) hne hrun
    rwa [List.append_nil, hnothing, List.append_nil, shown_of_mem h hcode] at hshown
  rw [← String.toList_inj, toList_replace, hcode, halone]

/-! ## Reading the result once more -/

/-- What is shown of a text that begins with a colon begins with the colon or with an emoji. -/
theorem replaceList_colon : ∃ x r, replaceList (':' :: s) = x :: r ∧ isCodeChar x = false := by
  have colon : isCodeChar ':' = false := by decide
  cases h : code? s with
  | none => exact ⟨':', replaceList s, replaceList_of_no_code h, colon⟩
  | some p =>
      rw [replaceList_of_code h]
      obtain ⟨emoji, hmem, hshown⟩ | ⟨_, hshown⟩ := shown_cases p.1
      · obtain ⟨x, r, hx, hstop⟩ := head_of_mem hmem
        rw [hshown, hx]
        exact ⟨x, _, rfl, (stops_iff.mp hstop).1⟩
      · rw [hshown]
        exact ⟨':', _, rfl, colon⟩

/-- **Where no code begins, none begins in what is shown**: the name that stands there is copied, and so is the
    character that stops it. -/
theorem code?_replaceList (h : code? s = none) : code? (replaceList s) = none := by
  obtain ⟨hs, hrun, hends⟩ := (Text.cut_iff (s := s)).mp ⟨rfl, rfl⟩
  generalize s.takeWhile isCodeChar = run at hs hrun
  generalize s.dropWhile isCodeChar = rest at hs hends
  subst hs
  cases rest with
  | nil =>
      rw [List.append_nil] at h ⊢
      rwa [replaceList_plain (colon_not_mem hrun)]
  | cons x r =>
      have hx : isCodeChar x = false := hends x rfl
      cases run with
      | nil =>
          rw [List.nil_append]
          by_cases hcolon : x = ':'
          · subst hcolon
            obtain ⟨y, r', hy, hcode⟩ := replaceList_colon (s := r)
            rw [hy]
            exact code?_cons hcode
          · rw [replaceList_cons_of_ne hcolon]
            exact code?_cons hx
      | cons d run =>
          have hcolon : x ≠ ':' := by
            rintro rfl
            exact absurd (h.symm.trans (code?_name (List.cons_ne_nil d run) hrun)) (by simp)
          have hstop : stops x = true := stops_iff.mpr ⟨hx, hcolon⟩
          rw [replaceList_append_stop hstop, replaceList_plain (colon_not_mem hrun)]
          exact code?_run_stop hstop hrun

/-- Characters that stop codes are copied. -/
theorem replaceList_stops (h : ∀ c ∈ t, stops c = true) : replaceList (t ++ s) = t ++ replaceList s := by
  induction t with
  | nil => rfl
  | cons c r ih =>
      obtain ⟨hc, hr⟩ := List.forall_mem_cons.mp h
      rw [List.cons_append, replaceList_cons_of_ne (stops_iff.mp hc).2, ih hr, List.cons_append]

/-- **Nothing is replaced twice**: what is shown is shown as it is. -/
theorem replaceList_replaceList : replaceList (replaceList s) = replaceList s := by
  fun_induction replaceList s with
  | case1 => rw [replaceList]
  | case2 s name rest h _ ih =>
      obtain ⟨_, hne, hrun⟩ := code?_eq_some_iff.mp h
      obtain ⟨emoji, hmem, hshown⟩ | ⟨_, hshown⟩ := shown_cases name
      · rw [hshown, replaceList_stops (stops_of_mem hmem).2, ih]
      · -- a code that is not known is found again
        rw [hshown, replaceList_written hne hrun, hshown, ih]
  | case3 s h ih => rw [replaceList_of_no_code (code?_replaceList h), ih]
  | case4 c s hc ih => rw [replaceList_cons_of_ne hc, ih]

/-- **The emoji in a text.** Codes of the table are replaced by their emoji, no two of which overlap, and everything
    else is copied in order; each code of the table is replaced where it stands alone; and replacing codes in the
    result changes nothing more. -/
theorem replace_stable (text : String) :
    Replaced text.toList (replace text).toList ∧
      table.map (fun e => replace e.1) = table.map (·.2) ∧
      replace (replace text) = replace text := by
  refine ⟨?_, ?_, ?_⟩
  · rw [toList_replace]
    exact replaced_replaceList
  · exact Array.map_congr_left fun e he => replace_of_mem he
  · rw [← String.toList_inj, toList_replace, toList_replace, replaceList_replaceList]

end TeamChat.Emoji
