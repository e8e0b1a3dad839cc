import TeamChat.Body
import TeamChat.Proofs.Text.Runs

/-!
# `Body.Cut`: a text and its mentions

`Mentions` is the pattern of a mention at the start of a text, and `Cut` says where a text is cut: at the
first place where the pattern matches, and so on behind that mention. The parts between are what the text
holds besides. There is exactly one such cut, and `Body.pieces` finds it.

## Contents
- `Body.Mentions`, `mention?_eq_some_iff`: the pattern of mentions.
- `Body.Cut`, `cut_segments`, `Cut.unique`: a text cut at its mentions.
- `Cut.users_eq`, `Cut.fill_eq`: who is mentioned, and the text with names in it.
- `users_append`, `fill_append`: what is put behind a text begins and ends no mention without a closing bracket.
-/

namespace TeamChat.Body

variable {text rest user : List Char}

/-! ## The pattern of mentions -/

/-- A text begins with a mention of a user, and goes on with the rest behind it: `<@user>`, or `<@user|hint>`
    where the hint holds no closing bracket. The user is written in word characters. -/
def Mentions (user rest text : List Char) : Prop :=
  user ≠ [] ∧ (∀ c ∈ user, Text.isWordChar c = true) ∧
    (text = '<' :: '@' :: (user ++ '>' :: rest) ∨
      ∃ hint, '>' ∉ hint ∧ text = '<' :: '@' :: (user ++ '|' :: (hint ++ '>' :: rest)))

/-- The end of a mention: a closing bracket, or a hint before it. -/
theorem mentionEnd?_eq_some_iff {tail : List Char} :
    mentionEnd? tail = some rest ↔
      tail = '>' :: rest ∨ ∃ hint, '>' ∉ hint ∧ tail = '|' :: (hint ++ '>' :: rest) := by
  constructor
  · intro h
    unfold mentionEnd? at h
    split at h
    · cases h
      exact .inl rfl
    · next hint =>
        have hsplit : hint.takeWhile (· ≠ '>') ++ hint.dropWhile (· ≠ '>') = hint :=
          List.takeWhile_append_dropWhile
        have hno : '>' ∉ hint.takeWhile (· ≠ '>') := by
          intro hm
          have hne := List.mem_takeWhile_imp hm
          exact absurd rfl (of_decide_eq_true hne)
        split at h
        · next y r hd =>
            cases h
            have hy : y = '>' := by
              have hhead := List.head?_dropWhile_not (fun x => decide (x ≠ '>')) hint
              rw [hd] at hhead
              simpa using hhead
            subst hy
            refine .inr ⟨_, hno, ?_⟩
            rw [← hd, hsplit]
        · exact absurd h (by simp)
    · exact absurd h (by simp)
  · rintro (rfl | ⟨hint, hno, rfl⟩)
    · rfl
    · have hall : ∀ x ∈ hint, decide (x ≠ '>') = true :=
        fun x hx => decide_eq_true fun he => hno (he ▸ hx)
      simp only [mentionEnd?]
      rw [List.dropWhile_append_of_pos hall, List.dropWhile_cons_of_neg (by simp)]

/-- **A mention is found exactly where the pattern matches.** -/
theorem mention?_eq_some_iff : mention? text = some (user, rest) ↔ Mentions user rest text := by
  constructor
  · intro h
    unfold mention? at h
    split at h
    · next s =>
        simp only [] at h
        split at h
        · exact absurd h (by simp)
        · next hne =>
            obtain ⟨r, hend, hr⟩ := Option.map_eq_some_iff.mp h
            cases hr
            have hsplit : s.takeWhile Text.isWordChar ++ s.dropWhile Text.isWordChar = s :=
              List.takeWhile_append_dropWhile
            refine ⟨by simpa using hne, fun c hc => List.mem_takeWhile_imp hc, ?_⟩
            obtain hd | ⟨hint, hno, hd⟩ := mentionEnd?_eq_some_iff.mp hend
            · exact .inl (by rw [← hd, hsplit])
            · exact .inr ⟨hint, hno, by rw [← hd, hsplit]⟩
    · exact absurd h (by simp)
  · rintro ⟨hne, hword, htext⟩
    -- the user ends where the bracket or the hint begins
    have found {x : Char} {tail : List Char} (hx : Text.isWordChar x = false)
        (hend : mentionEnd? (x :: tail) = some rest) :
        mention? ('<' :: '@' :: (user ++ x :: tail)) = some (user, rest) := by
      have htake : (user ++ x :: tail).takeWhile Text.isWordChar = user := by
        rw [List.takeWhile_append_of_pos hword, List.takeWhile_cons_of_neg (by simp [hx]), List.append_nil]
      have hdrop : (user ++ x :: tail).dropWhile Text.isWordChar = x :: tail := by
        rw [List.dropWhile_append_of_pos hword, List.dropWhile_cons_of_neg (by simp [hx])]
      simp only [mention?]
      rw [htake, hdrop, if_neg (by simpa using hne), hend]
      rfl
    rcases htext with rfl | ⟨hint, hno, rfl⟩
    · exact found (by decide) (mentionEnd?_eq_some_iff.mpr (.inl rfl))
    · exact found (by decide) (mentionEnd?_eq_some_iff.mpr (.inr ⟨hint, hno, rfl⟩))

/-! ## Cutting a text at its mentions -/

/-- **A text cut at its mentions**: what stands before the first one, and for each mention the user and what
    stands behind it, up to the next one. The pattern matches nowhere before the first mention, and the rest
    behind that mention is cut in the same way. -/
inductive Cut : List Char → List Char → List (String × List Char) → Prop
  | last {text : List Char}
      (none : ∀ pre post, text = pre ++ post → ∀ user rest, ¬ Mentions user rest post) : Cut text text []
  | next {before text user rest after : List Char} {parts : List (String × List Char)}
      (none : ∀ pre post, before = pre ++ post → post ≠ [] → ∀ user rest, ¬ Mentions user rest (post ++ text))
      (match_ : Mentions user rest text) (cut : Cut rest after parts) :
      Cut (before ++ text) before ((String.ofList user, after) :: parts)

theorem not_mentions_nil : ¬ Mentions user rest [] := by
  rintro ⟨_, _, h | ⟨_, _, h⟩⟩
  · exact absurd h (by simp)
  · exact absurd h (by simp)

/-- One more character before the first mention. -/
theorem Cut.cons {c : Char} {first : List Char} {parts : List (String × List Char)}
    (hc : mention? (c :: text) = none) (h : Cut text first parts) : Cut (c :: text) (c :: first) parts := by
  have here : ∀ user rest, ¬ Mentions user rest (c :: text) := by
    intro user rest hm
    exact absurd (hc.symm.trans (mention?_eq_some_iff.mpr hm)) (by simp)
  cases h with
  -- in both cases the pattern matches neither at the new character nor behind it
  | last clear =>
      refine .last fun pre post he => ?_
      cases pre with
      | nil =>
          have hp : c :: text = post := he
          rw [← hp]
          exact here
      | cons y pre => exact clear pre post (List.cons.inj he).2
  | @next _ text _ _ _ _ clear hm later =>
      show Cut (c :: first ++ text) (c :: first) _
      refine .next (fun pre post he hne => ?_) hm later
      cases pre with
      | nil =>
          have hp : c :: first = post := he
          rw [← hp]
          exact here
      | cons y pre => exact clear pre post (List.cons.inj he).2 hne

/-- The pieces of a text, with the characters between two mentions put together. -/
def segments : List Piece → List Char × List (String × List Char)
  | [] => ([], [])
  | .char c :: r => (c :: (segments r).1, (segments r).2)
  | .mention user :: r => ([], (user, (segments r).1) :: (segments r).2)

/-- A text is cut at its mentions by its pieces. -/
theorem cut_segments (text : List Char) : Cut text (segments (pieces text)).1 (segments (pieces text)).2 := by
  fun_induction pieces text with
  | case1 =>
      refine .last fun pre post he => ?_
      rw [(List.append_eq_nil_iff.mp he.symm).2]
      exact fun user rest => not_mentions_nil
  | case2 c s user rest h _ ih =>
      show Cut ([] ++ c :: s) [] _
      refine .next (fun pre post he hne => ?_) (mention?_eq_some_iff.mp h) ih
      exact absurd (List.append_eq_nil_iff.mp he.symm).2 hne
  | case3 c s h ih => exact ih.cons h

theorem pieces_of_mention {c : Char} (h : mention? (c :: text) = some (user, rest)) :
    pieces (c :: text) = .mention (String.ofList user) :: pieces rest := by
  rw [pieces]
  split
  · next user' rest' h' =>
      cases h.symm.trans h'
      rfl
  · next h' => exact absurd (h.symm.trans h') (by simp)

theorem pieces_of_no_mention {c : Char} (h : mention? (c :: text) = none) :
    pieces (c :: text) = .char c :: pieces text := by
  rw [pieces]
  split
  · next h' => exact absurd (h.symm.trans h') (by simp)
  · rfl

/-- Where the pattern matches nowhere, the characters are pieces by themselves. -/
theorem segments_append {before : List Char}
    (h : ∀ pre post, before = pre ++ post → post ≠ [] → ∀ user rest, ¬ Mentions user rest (post ++ text)) :
    segments (pieces (before ++ text)) =
      (before ++ (segments (pieces text)).1, (segments (pieces text)).2) := by
  induction before with
  | nil => rfl
  | cons c r ih =>
      have hnone : mention? (c :: (r ++ text)) = none := by
        rw [Option.eq_none_iff_forall_ne_some]
        rintro ⟨user, rest⟩ hm
        exact h [] (c :: r) rfl (by simp) user rest (mention?_eq_some_iff.mp hm)
      have hr := ih fun pre post he => h (c :: pre) post (congrArg (c :: ·) he)
      rw [List.cons_append, pieces_of_no_mention hnone, segments, hr]
      rfl

/-- **There is exactly one cut.** -/
theorem Cut.unique {first : List Char} {parts : List (String × List Char)} (h : Cut text first parts) :
    segments (pieces text) = (first, parts) := by
  induction h with
  | @last text clear =>
      have hclear : ∀ pre post, text = pre ++ post → post ≠ [] →
          ∀ user rest, ¬ Mentions user rest (post ++ []) := by
        intro pre post he _ user rest
        rw [List.append_nil]
        exact clear pre post he user rest
      have hs := segments_append hclear
      rw [List.append_nil] at hs
      rw [hs, pieces]
      simp only [segments, List.append_nil]
  | @next before text user rest after parts clear hm later ih =>
      rw [segments_append clear]
      cases text with
      | nil => exact absurd hm not_mentions_nil
      | cons c s =>
          rw [pieces_of_mention (mention?_eq_some_iff.mpr hm), segments, ih, List.append_nil]

/-! ## What the stages make of a cut -/

/-- Of the users that are mentioned, each is there once. -/
theorem nodup_eraseDups (users : List String) : users.eraseDups.Nodup := by
  match users with
  | [] => exact List.nodup_nil
  | user :: rest =>
      rw [List.eraseDups_cons, List.nodup_cons]
      refine ⟨?_, nodup_eraseDups _⟩
      rw [List.mem_eraseDups, List.mem_filter]
      rintro ⟨_, hne⟩
      simp at hne
termination_by users.length
decreasing_by exact Nat.lt_succ_of_le (List.length_filter_le _ _)

theorem filterMap_user? (ps : List Piece) : ps.filterMap Piece.user? = (segments ps).2.map (·.1) := by
  induction ps with
  | nil => rfl
  | cons p r ih =>
      cases p with
      | char c => exact ih
      | mention user => exact congrArg (user :: ·) ih

theorem flatMap_fill (name : String → String) (ps : List Piece) :
    ps.flatMap (Piece.fill name) =
      (segments ps).1 ++ (segments ps).2.flatMap fun p => '@' :: ((name p.1).toList ++ p.2) := by
  induction ps with
  | nil => rfl
  | cons p r ih =>
      rw [List.flatMap_cons, ih]
      cases p with
      | char c => rfl
      | mention user =>
          simp only [segments, Piece.fill, List.nil_append, List.flatMap_cons, List.cons_append,
            List.append_assoc]

section

variable {first : List Char} {parts : List (String × List Char)} (h : Cut text first parts)

include h

/-- Who is mentioned: each user of the cut once, in the order of the first mentions. -/
theorem Cut.users_eq : users text = (parts.map (·.1)).eraseDups := by
  rw [users, filterMap_user?, h.unique]

/-- The text with names: each stands behind an at sign between two parts. -/
theorem Cut.fill_eq (name : String → String) :
    fill name text = first ++ parts.flatMap fun p => '@' :: ((name p.1).toList ++ p.2) := by
  rw [fill, flatMap_fill, h.unique]

end

/-! ## What is put behind a text -/

section Append

variable {tail : List Char} (ht : '>' ∉ tail)

include ht

/-- A closing bracket that is not in what was put behind stands in the text before. -/
theorem bracket_before {before : List Char} (h : text ++ tail = before ++ '>' :: rest) :
    ∃ more, text = before ++ '>' :: more ∧ rest = more ++ tail := by
  rcases Text.mark_cases h with hbefore | ⟨more, _, htail⟩
  · exact hbefore
  · exact absurd (by simp [htail]) ht

/-- A mention ends in a closing bracket, so it is there before anything without one is put behind. -/
theorem mention?_append : mention? (text ++ tail) = (mention? text).map fun p => (p.1, p.2 ++ tail) := by
  cases hm : mention? text with
  | some p =>
      obtain ⟨hne, hword, htext⟩ := mention?_eq_some_iff.mp hm
      refine mention?_eq_some_iff.mpr ⟨hne, hword, ?_⟩
      rcases htext with rfl | ⟨hint, hno, rfl⟩
      · exact .inl (by simp)
      · exact .inr ⟨hint, hno, by simp⟩
  | none =>
      rw [Option.map_none, Option.eq_none_iff_forall_ne_some]
      rintro ⟨user, rest⟩ hp
      obtain ⟨hne, hword, htext⟩ := mention?_eq_some_iff.mp hp
      have found : ∃ more, Mentions user more text := by
        rcases htext with htext | ⟨hint, hno, htext⟩
        · have hends : text ++ tail = ('<' :: '@' :: user) ++ '>' :: rest := htext
          obtain ⟨more, rfl, _⟩ := bracket_before ht hends
          exact ⟨more, hne, hword, .inl rfl⟩
        · have hends : text ++ tail = ('<' :: '@' :: (user ++ '|' :: hint)) ++ '>' :: rest := by
            rw [htext]
            simp
          obtain ⟨more, rfl, _⟩ := bracket_before ht hends
          exact ⟨more, hne, hword, .inr ⟨hint, hno, by simp⟩⟩
      obtain ⟨more, hmore⟩ := found
      exact absurd (hm.symm.trans (mention?_eq_some_iff.mpr hmore)) (by simp)

theorem pieces_append : pieces (text ++ tail) = pieces text ++ tail.map Piece.char := by
  fun_induction pieces text with
  | case1 =>
      -- nothing of it begins a mention
      induction tail with
      | nil => rw [List.nil_append, pieces]; rfl
      | cons y r ih =>
          have hnone : mention? (y :: r) = none := @mention?_append [] _ ht
          have hr := ih fun h => ht (List.mem_cons_of_mem y h)
          rw [List.nil_append] at hr ⊢
          rw [pieces_of_no_mention hnone, hr]
          rfl
  | case2 c s user rest h _ ih =>
      have hm : mention? (c :: (s ++ tail)) = some (user, rest ++ tail) := by
        rw [← List.cons_append, mention?_append ht, h]
        rfl
      rw [List.cons_append, pieces_of_mention hm, ih, List.cons_append]
  | case3 c s h ih =>
      have hm : mention? (c :: (s ++ tail)) = none := by
        rw [← List.cons_append, mention?_append ht, h]
        rfl
      rw [List.cons_append, pieces_of_no_mention hm, ih, List.cons_append]

/-- Nobody else is mentioned. -/
theorem users_append : users (text ++ tail) = users text := by
  have nobody : (tail.map Piece.char).filterMap Piece.user? = [] := by
    rw [List.filterMap_map]
    exact List.filterMap_eq_nil_iff.mpr fun _ _ => rfl
  rw [users, pieces_append ht, List.filterMap_append, nobody, List.append_nil]
  rfl

/-- What is put behind is copied. -/
theorem fill_append (name : String → String) : fill name (text ++ tail) = fill name text ++ tail := by
  have copied : (tail.map Piece.char).flatMap (Piece.fill name) = tail := by
    rw [List.flatMap_map]
    exact List.flatMap_singleton' tail
  rw [fill, pieces_append ht, List.flatMap_append, copied]
  rfl

end Append

end TeamChat.Body
