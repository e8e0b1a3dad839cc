import TeamChat.Emoji
import TeamChat.Proofs.Text.Runs

/-!
# `Emoji.replaceList`: where codes begin and end

A code is a name between two colons, and the characters of names are few. So no code reaches over a character
that is neither a colon nor one of these, and a text may be cut there: codes are looked for on both sides by
themselves.

## Contents
- `Emoji.code?_eq_some_iff`: the pattern of codes.
- `replaceList_of_code`, `replaceList_of_no_code`, `replaceList_cons_of_ne`: one step of the scan.
- `replaceList_written`: a code, known or not.
- `Emoji.Apart`, `replaceList_append`, `replaceList_append_stop`: a text may be cut where no code reaches over.
- `Emoji.replaceList_plain`: what holds no colon is copied.
-/

namespace TeamChat.Emoji

variable {s t rest name : List Char} {c x : Char}

/-- **The pattern of codes**: a name, which is not empty, and a colon. -/
theorem code?_eq_some_iff :
    code? s = some (name, rest) ↔
      s = name ++ ':' :: rest ∧ name ≠ [] ∧ ∀ c ∈ name, isCodeChar c = true := by
  have colon : isCodeChar ':' = false := by decide
  constructor
  · intro h
    simp only [code?] at h
    split at h
    · next r hd =>
        split at h
        · exact absurd h (by simp)
        · next hne =>
            cases h
            obtain ⟨hs, hrun, _⟩ := Text.cut_iff.mp ⟨rfl, hd⟩
            exact ⟨hs, by simpa using hne, hrun⟩
    · exact absurd h (by simp)
  · rintro ⟨hs, hne, hrun⟩
    -- the name ends at the colon, which is no character of a name
    have ends : ∀ y ∈ (':' :: rest).head?, isCodeChar y = false := by
      intro y hy
      cases hy
      exact colon
    obtain ⟨htake, hdrop⟩ := Text.cut_iff.mpr ⟨hs, hrun, ends⟩
    simp only [code?]
    rw [htake, hdrop]
    exact if_neg (by simpa using hne)

/-- A name that ends with a colon. -/
theorem code?_name (hne : name ≠ []) (hrun : ∀ c ∈ name, isCodeChar c = true) :
    code? (name ++ ':' :: rest) = some (name, rest) :=
  code?_eq_some_iff.mpr ⟨rfl, hne, hrun⟩

/-- No code begins with a character that stands in no name. -/
theorem code?_cons (h : isCodeChar c = false) : code? (c :: s) = none := by
  rw [Option.eq_none_iff_forall_ne_some]
  rintro ⟨name, rest⟩ hc
  obtain ⟨hs, hne, hrun⟩ := code?_eq_some_iff.mp hc
  cases name with
  | nil => exact hne rfl
  | cons d r =>
      obtain ⟨rfl, _⟩ := List.cons.inj hs
      exact absurd (h.symm.trans (hrun c List.mem_cons_self)) (by simp)

/-! ## One step of the scan -/

theorem replaceList_cons_of_ne (hc : c ≠ ':') : replaceList (c :: s) = c :: replaceList s := by
  rw [replaceList, if_neg hc]

theorem replaceList_of_code (h : code? s = some (name, rest)) :
    replaceList (':' :: s) = shown name ++ replaceList rest := by
  rw [replaceList, if_pos rfl]
  split
  · next name' rest' h' =>
      cases h.symm.trans h'
      rfl
  · next h' => exact absurd (h.symm.trans h') (by simp)

theorem replaceList_of_no_code (h : code? s = none) : replaceList (':' :: s) = ':' :: replaceList s := by
  rw [replaceList, if_pos rfl]
  split
  · next h' => exact absurd (h.symm.trans h') (by simp)
  · rfl

theorem written_append : written name ++ t = ':' :: (name ++ ':' :: t) := by
  rw [written, List.append_assoc]
  rfl

/-- For a code, known or not, what is shown for it. -/
theorem replaceList_written (hne : name ≠ []) (hrun : ∀ c ∈ name, isCodeChar c = true) :
    replaceList (written name ++ t) = shown name ++ replaceList t := by
  rw [written_append, replaceList_of_code (code?_name hne hrun)]

theorem toList_replace (text : String) : (replace text).toList = replaceList text.toList :=
  String.toList_ofList

/-! ## Cutting a text -/

/-- A code that ends in a text ends at the same place with anything behind. -/
theorem code?_append (h : code? s = some (name, rest)) : code? (s ++ t) = some (name, rest ++ t) := by
  obtain ⟨rfl, hne, hrun⟩ := code?_eq_some_iff.mp h
  exact code?_eq_some_iff.mpr ⟨by rw [List.append_assoc, List.cons_append], hne, hrun⟩

/-- A code that does not end in a text, but behind it, has all of the text in its name. -/
theorem run_of_code?_append (hs : code? s = none) (h : code? (s ++ t) = some (name, rest)) :
    ∀ c ∈ s, isCodeChar c = true := by
  obtain ⟨hst, hne, hrun⟩ := code?_eq_some_iff.mp h
  rcases Text.mark_cases hst with ⟨more, rfl, _⟩ | ⟨more, rfl, _⟩
  · exact absurd (hs.symm.trans (code?_name hne hrun)) (by simp)
  · intro c hc
    exact hrun c (List.mem_append_left more hc)

/-- No code reaches from one text into the next: behind the last colon of the first one there is no name that the second
    one ends with a colon. -/
def Apart (s t : List Char) : Prop :=
  ∀ before run, s = before ++ ':' :: run → (∀ c ∈ run, isCodeChar c = true) → code? (run ++ t) = none

/-- What is cut off in front of a text leaves less to reach over. -/
theorem Apart.tail {before : List Char} (h : Apart (before ++ s) t) : Apart s t := by
  intro more run hs hrun
  exact h (before ++ more) run (by rw [hs, List.append_assoc]) hrun

/-- **A text may be cut where no code reaches over**: codes are replaced on both sides by themselves. -/
theorem replaceList_append (h : Apart s t) : replaceList (s ++ t) = replaceList s ++ replaceList t := by
  fun_induction replaceList s with
  | case1 => rfl
  | case2 s name rest hc _ ih =>
      have hrest : Apart rest t := by
        obtain ⟨hs, _, _⟩ := code?_eq_some_iff.mp hc
        have hwhole : ':' :: s = written name ++ rest := by rw [hs, written_append]
        exact Apart.tail (hwhole ▸ h)
      rw [List.cons_append, replaceList_of_code (code?_append hc), ih hrest, List.append_assoc]
  | case3 s hc ih =>
      have hnone : code? (s ++ t) = none := by
        cases hst : code? (s ++ t) with
        | none => rfl
        | some p => exact absurd (hst.symm.trans (h [] s rfl (run_of_code?_append hc hst))) (by simp)
      have hwhole : Apart ([':'] ++ s) t := h
      rw [List.cons_append, replaceList_of_no_code hnone, ih hwhole.tail, List.cons_append]
  | case4 c s hc ih =>
      have hwhole : Apart ([c] ++ s) t := h
      rw [List.cons_append, replaceList_cons_of_ne hc, ih hwhole.tail, List.cons_append]

/-- A character that no code reaches over: neither a colon nor one that stands in the name of a code. -/
def stops (x : Char) : Bool :=
  !isCodeChar x && x != ':'

theorem stops_iff : stops x = true ↔ isCodeChar x = false ∧ x ≠ ':' := by
  simp [stops]

/-- No colon stands in a name. -/
theorem colon_not_mem (h : ∀ c ∈ s, isCodeChar c = true) : ':' ∉ s := by
  intro hmem
  exact absurd (h ':' hmem) (by decide)

/-- A name without a colon behind it is no code. -/
theorem code?_run (h : ∀ c ∈ s, isCodeChar c = true) : code? s = none := by
  rw [Option.eq_none_iff_forall_ne_some]
  rintro ⟨name, rest⟩ hc
  obtain ⟨hs, _, _⟩ := code?_eq_some_iff.mp hc
  exact colon_not_mem h (by simp [hs])

/-- A name that goes on up to a character that stops it is no code. -/
theorem code?_run_stop (hx : stops x = true) (h : ∀ c ∈ s, isCodeChar c = true) : code? (s ++ x :: t) = none := by
  obtain ⟨hname, hcolon⟩ := stops_iff.mp hx
  rw [Option.eq_none_iff_forall_ne_some]
  rintro ⟨name, rest⟩ hc
  obtain ⟨hs, _, hrun⟩ := code?_eq_some_iff.mp hc
  have hout : x ∉ name := by
    intro hin
    exact absurd (hname.symm.trans (hrun x hin)) (by simp)
  -- the colon would stand in front of it
  obtain ⟨more, rfl, _⟩ := Text.mark_before hs hcolon hout
  exact colon_not_mem h (by simp)

/-- A text may be cut in front of a character that stops codes. -/
theorem replaceList_append_stop (hx : stops x = true) :
    replaceList (s ++ x :: t) = replaceList s ++ x :: replaceList t := by
  have hapart : Apart s (x :: t) := by
    intro _ run _ hrun
    exact code?_run_stop hx hrun
  rw [replaceList_append hapart, replaceList_cons_of_ne (stops_iff.mp hx).2]

/-- What holds no colon is copied. -/
theorem replaceList_plain (hs : ':' ∉ s) : replaceList s = s := by
  induction s with
  | nil => rw [replaceList]
  | cons y r ih =>
      rw [List.mem_cons, not_or] at hs
      rw [replaceList_cons_of_ne (Ne.symm hs.1), ih hs.2]

end TeamChat.Emoji
