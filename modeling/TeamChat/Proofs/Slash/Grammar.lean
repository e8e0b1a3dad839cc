import TeamChat.Proofs.Text.Runs
import TeamChat.Slash

/-!
# `Slash.parse`: the form of commands

A command is a slash, a word and what follows it behind a gap (`Splits`). The command `/thread` has the same form
once more behind its own gap: a word for the thread, a gap, and a text. Both levels are read by one function
(`wordThenRest?_eq_some_iff`), so what is taken for a reply can be said of the line as a whole
(`parse_eq_thread_iff`).

## Contents
- `Slash.Splits`, `wordThenRest?_eq_some_iff`: a word, and what follows it behind a gap.
- `Slash.ReplyForm`, `Slash.AsksReply`, `parse_eq_thread_iff`: lines that ask for a reply in a thread.
- `Slash.firstWord`, `parse_of_firstWord`, `isCommand_of_head`: lines whose first word is `/thread`.
-/

namespace TeamChat.Slash

variable {s w gap rest : List Char} {line word text : String}

/-! ## A word and what follows it -/

/-- **A word, a gap of blanks, and the rest.** The word goes on as long as it can, and so does the gap; there is a
    gap if there is a rest, and the rest is in one line. -/
structure Splits (s w gap rest : List Char) : Prop where
  chars : s = w ++ (gap ++ rest)
  word_ne_nil : w ≠ []
  word : ∀ c ∈ w, Text.isWordChar c = true
  blank : ∀ c ∈ gap, Text.isBlank c = true
  apart : gap = [] → rest = []
  begins : ∀ c ∈ rest.head?, Text.isBlank c = false
  one_line : '\n' ∉ rest

/-- What follows a word begins with a blank, if anything does. -/
theorem Splits.not_word (h : Splits s w gap rest) : ∀ c ∈ (gap ++ rest).head?, Text.isWordChar c = false := by
  intro c hc
  cases hg : gap with
  | nil => simp [hg, h.apart hg] at hc
  | cons d r =>
      have hd : d = c := by simpa [hg] using hc
      rw [← hd]
      exact Text.isWordChar_of_isBlank (h.blank d (hg ▸ List.mem_cons_self))

/-- The arguments of a command stand behind a gap, in one line. -/
theorem arguments?_eq_some_iff :
    arguments? s = some rest ↔
      ∃ gap, gap ≠ [] ∧ s = gap ++ rest ∧ (∀ c ∈ gap, Text.isBlank c = true) ∧
        (∀ c ∈ rest.head?, Text.isBlank c = false) ∧ '\n' ∉ rest := by
  cases s with
  | nil =>
      refine ⟨fun h => absurd h (by simp [arguments?]), fun ⟨gap, hne, hs, _⟩ => ?_⟩
      exact absurd (List.append_eq_nil_iff.mp hs.symm).1 hne
  | cons c r =>
      simp only [arguments?]
      constructor
      · intro h
        split at h
        · next hc =>
            obtain ⟨hs, hblank, hrest⟩ := Text.cut_iff.mp ⟨rfl, Option.some.inj h⟩
            rw [Bool.and_eq_true] at hc
            refine ⟨_, ?_, hs, hblank, hrest, ?_⟩
            · rw [List.takeWhile_cons_of_pos hc.1]
              exact List.cons_ne_nil _ _
            · rw [← Option.some.inj h]
              simpa using hc.2
        · exact absurd h (by simp)
      · rintro ⟨gap, hne, hs, hblank, hrest, hline⟩
        have hdrop := (Text.cut_iff.mpr ⟨hs, hblank, hrest⟩).2
        rw [hdrop]
        cases gap with
        | nil => exact absurd rfl hne
        | cons d gap =>
            have hcd : c = d := (List.cons.inj hs).1
            have hc : Text.isBlank c = true := hcd ▸ hblank d List.mem_cons_self
            rw [if_pos]
            simp [hc, hline]

theorem wordThenRest?_eq {r : List Char} (hw : s.takeWhile Text.isWordChar = w)
    (hr : s.dropWhile Text.isWordChar = r) :
    wordThenRest? s =
      if w = [] then none else if r = [] then some (w, []) else (arguments? r).map (w, ·) := by
  subst hw hr
  simp only [wordThenRest?, Slash.word, List.isEmpty_iff]

/-- **What is read as a word and its rest** is a word, a gap and a rest. -/
theorem wordThenRest?_eq_some_iff : wordThenRest? s = some (w, rest) ↔ ∃ gap, Splits s w gap rest := by
  constructor
  · intro h
    rw [wordThenRest?_eq rfl rfl] at h
    obtain ⟨hs, hword, _⟩ := (Text.cut_iff (p := Text.isWordChar) (s := s)).mp ⟨rfl, rfl⟩
    split at h
    · exact absurd h (by simp)
    · next hw =>
        split at h
        · next hr =>
            -- the text ends with the word
            obtain ⟨rfl, rfl⟩ := Prod.mk.inj (Option.some.inj h)
            rw [hr] at hs
            exact ⟨[], hs, hw, hword, by simp, fun _ => rfl, by simp, by simp⟩
        · obtain ⟨r, hr, he⟩ := Option.map_eq_some_iff.mp h
          obtain ⟨rfl, rfl⟩ := Prod.mk.inj he
          obtain ⟨gap, hne, hgap, hblank, hbegins, hline⟩ := arguments?_eq_some_iff.mp hr
          rw [hgap] at hs
          exact ⟨gap, hs, hw, hword, hblank, fun h => absurd h hne, hbegins, hline⟩
  · rintro ⟨gap, h⟩
    obtain ⟨htake, hdrop⟩ := Text.cut_iff.mpr ⟨h.chars, h.word, h.not_word⟩
    rw [wordThenRest?_eq htake hdrop, if_neg h.word_ne_nil]
    by_cases hg : gap = []
    · rw [hg, h.apart hg]
      rfl
    · rw [if_neg (by simp [hg]), arguments?_eq_some_iff.mpr ⟨gap, hg, rfl, h.blank, h.begins, h.one_line⟩]
      rfl

/-! ## Replies -/

/-- A thread and a text are read where a word, a gap and a rest are found that is not empty. -/
theorem thread?_eq_some_iff : thread? s = some (w, rest) ↔ (∃ gap, Splits s w gap rest) ∧ rest ≠ [] := by
  rw [← wordThenRest?_eq_some_iff]
  unfold thread?
  split
  · next v r hv =>
      rw [hv]
      cases r with
      | nil =>
          simp only [List.isEmpty_nil, if_true, Option.some.injEq, Prod.mk.injEq]
          exact ⟨fun h => absurd h (by simp), fun ⟨h, hne⟩ => absurd h.2.symm hne⟩
      | cons c r =>
          simp only [List.isEmpty_cons, Bool.false_eq_true, if_false, Option.some.injEq, Prod.mk.injEq]
          exact ⟨fun h => ⟨h, h.2 ▸ List.cons_ne_nil c r⟩, fun h => h.1⟩
  · next hn =>
      rw [hn]
      exact ⟨fun h => absurd h (by simp), fun h => absurd h.1 (by simp)⟩

/-- **The form of a line that asks for a reply**: the command, a word for the thread, and a text, with gaps of
    blanks between them and perhaps blanks at the end. The text begins and ends with something else, and from the
    word on all of it is in one line. -/
structure ReplyForm (line gap word gap' text tail : List Char) : Prop where
  chars : line = "/thread".toList ++ (gap ++ (word ++ (gap' ++ (text ++ tail))))
  gap_ne_nil : gap ≠ []
  gap_blank : ∀ c ∈ gap, Text.isBlank c = true
  word_ne_nil : word ≠ []
  word : ∀ c ∈ word, Text.isWordChar c = true
  gap'_ne_nil : gap' ≠ []
  gap'_blank : ∀ c ∈ gap', Text.isBlank c = true
  text_ne_nil : text ≠ []
  begins : ∀ c ∈ text.head?, Text.isBlank c = false
  ends : ∀ c ∈ text.getLast?, Text.isBlank c = false
  one_line : '\n' ∉ gap' ++ text
  tail_blank : ∀ c ∈ tail, Text.isBlank c = true

/-- A line asks for a reply with a text, in the thread that goes by a word. -/
def AsksReply (line word text : String) : Prop :=
  ∃ gap gap' tail, ReplyForm line.toList gap word.toList gap' text.toList tail

theorem word_thread : ∀ c ∈ "thread".toList, Text.isWordChar c = true :=
  List.all_eq_true.mp (by decide)

/-- The command `/thread` is read by what follows it. -/
theorem parse_of_thread (hx : Text.trimEnd line.toList = '/' :: s)
    (hs : wordThenRest? s = some ("thread".toList, rest)) :
    parse line = match thread? rest with
      | none => .error .badThread
      | some (w, text) => .ok (.thread (String.ofList w) (String.ofList text)) := by
  cases ht : thread? rest with
  | none => simp only [parse, hx, hs, ht, if_true]
  | some found => simp only [parse, hx, hs, ht, if_true]

/-- A line is taken for a reply if it has the form of a command twice: at its beginning, and once more behind
    `/thread`. -/
theorem parse_eq_thread :
    parse line = .ok (.thread word text) ↔
      ∃ s rest, Text.trimEnd line.toList = '/' :: s ∧ wordThenRest? s = some ("thread".toList, rest) ∧
        thread? rest = some (word.toList, text.toList) := by
  constructor
  · intro h
    have hp := h
    unfold parse at hp
    simp only [] at hp
    split at hp
    · next s hx =>
        split at hp
        · exact absurd hp (by simp)
        · next name rest hs =>
            by_cases hn : name = "thread".toList
            · subst hn
              refine ⟨s, rest, hx, hs, ?_⟩
              rw [parse_of_thread hx hs] at h
              split at h
              · exact absurd h (by simp)
              · next ht =>
                  obtain ⟨rfl, rfl⟩ := Command.thread.inj (Except.ok.inj h)
                  rw [ht, String.toList_ofList, String.toList_ofList]
            · rw [if_neg hn] at hp
              exact absurd hp (by simp)
    · exact absurd hp (by simp)
  · rintro ⟨s, rest, hx, hs, ht⟩
    rw [parse_of_thread hx hs, ht]
    simp only [String.ofList_toList]

section ReplyForm

variable {gap word gap' text tail : List Char}

/-- The text of a reply stands at the end of the line. -/
theorem text_at_end :
    '/' :: ("thread".toList ++ (gap ++ (word ++ (gap' ++ text)))) =
      ("/thread".toList ++ (gap ++ (word ++ gap'))) ++ text := by
  simp

namespace ReplyForm

variable {line : List Char} (h : ReplyForm line gap word gap' text tail)

include h

theorem trimEnd_eq : Text.trimEnd line = '/' :: ("thread".toList ++ (gap ++ (word ++ (gap' ++ text)))) := by
  refine Text.trimEnd_eq_iff.mpr ⟨?_, tail, h.tail_blank, ?_⟩
  · rw [text_at_end, List.getLast?_append_of_ne_nil _ h.text_ne_nil]
    exact h.ends
  · rw [h.chars]
    simp

/-- The command, and what it is given. -/
theorem splits : Splits ("thread".toList ++ (gap ++ (word ++ (gap' ++ text)))) "thread".toList gap
    (word ++ (gap' ++ text)) where
  chars := rfl
  word_ne_nil := by simp
  word := word_thread
  blank := h.gap_blank
  apart hg := absurd hg h.gap_ne_nil
  begins c hc := by
    rw [List.head?_append_of_ne_nil _ h.word_ne_nil] at hc
    exact Text.isBlank_of_isWordChar (h.word c (List.mem_of_mem_head? hc))
  one_line hn := by
    rcases List.mem_append.mp hn with hw | hn
    · exact absurd (h.word _ hw) (by decide)
    · exact h.one_line hn

/-- The thread, and what is said there. -/
theorem splits_word : Splits (word ++ (gap' ++ text)) word gap' text where
  chars := rfl
  word_ne_nil := h.word_ne_nil
  word := h.word
  blank := h.gap'_blank
  apart hg := absurd hg h.gap'_ne_nil
  begins := h.begins
  one_line hn := h.one_line (List.mem_append_right _ hn)

end ReplyForm

/-- A command behind which a thread and a text stand asks for a reply. -/
theorem replyForm_of_splits {line s rest : List Char} (hx : Text.trimEnd line = '/' :: s)
    (hs : Splits s "thread".toList gap rest) (hr : Splits rest word gap' text) (hne : text ≠ []) :
    ∃ tail, ReplyForm line gap word gap' text tail := by
  obtain ⟨hends, tail, htail, hline⟩ := Text.trimEnd_eq_iff.mp hx
  refine ⟨tail, { chars := ?_, gap_ne_nil := ?_, gap_blank := hs.blank, word_ne_nil := hr.word_ne_nil
                  word := hr.word, gap'_ne_nil := ?_, gap'_blank := hr.blank, text_ne_nil := hne
                  begins := hr.begins, ends := ?_, one_line := ?_, tail_blank := htail }⟩
  · rw [hline, hs.chars, hr.chars]
    simp
  · intro hg
    have hrest : rest = [] := hs.apart hg
    rw [hr.chars] at hrest
    exact hr.word_ne_nil (List.append_eq_nil_iff.mp hrest).1
  · intro hg
    exact hne (hr.apart hg)
  · intro c hc
    refine hends c ?_
    rw [hs.chars, hr.chars, text_at_end]
    exact List.mem_getLast?_append_of_mem_getLast? hc
  · intro hn
    refine hs.one_line ?_
    rw [hr.chars]
    exact List.mem_append_right _ hn

end ReplyForm

/-- **The lines that are taken for replies** are those that ask for one. -/
theorem parse_eq_thread_iff : parse line = .ok (.thread word text) ↔ AsksReply line word text := by
  rw [parse_eq_thread]
  constructor
  · rintro ⟨s, rest, hx, hs, ht⟩
    obtain ⟨gap, hs⟩ := wordThenRest?_eq_some_iff.mp hs
    obtain ⟨⟨gap', hr⟩, hne⟩ := thread?_eq_some_iff.mp ht
    exact ⟨gap, gap', replyForm_of_splits hx hs hr hne⟩
  · rintro ⟨gap, gap', tail, h⟩
    exact ⟨_, _, h.trimEnd_eq, wordThenRest?_eq_some_iff.mpr ⟨gap, h.splits⟩,
      thread?_eq_some_iff.mpr ⟨⟨gap', h.splits_word⟩, h.text_ne_nil⟩⟩

/-! ## Lines that begin with the command -/

/-- The first word of a line: blanks at the beginning are passed over, and the next blank ends it. -/
def firstWord (line : String) : List Char :=
  (line.toList.dropWhile Text.isBlank).takeWhile fun c => !Text.isBlank c

/-- A line whose first word is the command, with nothing before it, has the form of a command. -/
theorem form_of_firstWord (hslash : line.toList.head? = some '/') (hfirst : firstWord line = "/thread".toList)
    (hline : '\n' ∉ line.toList) :
    ∃ s rest, Text.trimEnd line.toList = '/' :: s ∧ wordThenRest? s = some ("thread".toList, rest) := by
  obtain ⟨cs, hcs⟩ := List.head?_eq_some_iff.mp hslash
  have hstart : line.toList.dropWhile Text.isBlank = line.toList := by
    rw [hcs]
    exact List.dropWhile_cons_of_neg (by decide)
  unfold firstWord at hfirst
  rw [hstart] at hfirst
  obtain ⟨hl, _, hbehind⟩ := Text.cut_iff.mp ⟨hfirst, rfl⟩
  generalize line.toList.dropWhile (fun c => !Text.isBlank c) = behind at hl hbehind
  have hx : Text.trimEnd line.toList = "/thread".toList ++ Text.trimEnd behind := by
    rw [hl]
    refine Text.trimEnd_append fun c hc => ?_
    obtain rfl : 'd' = c := Option.some.inj hc
    decide
  obtain ⟨_, tail, _, htail⟩ := Text.trimEnd_eq_iff.mp (rfl : Text.trimEnd behind = Text.trimEnd behind)
  generalize Text.trimEnd behind = y at hx htail
  -- what stands behind the command, without the blanks at the end, is a gap and a rest
  obtain ⟨gap, rest, hcut, hgap, hbegins⟩ : ∃ gap rest, y = gap ++ rest ∧ (∀ c ∈ gap, Text.isBlank c = true) ∧
      ∀ c ∈ rest.head?, Text.isBlank c = false := ⟨_, _, Text.cut_iff.mp ⟨rfl, rfl⟩⟩
  refine ⟨_, rest, hx, wordThenRest?_eq_some_iff.mpr ⟨gap, ?_⟩⟩
  refine { chars := congrArg _ hcut, word_ne_nil := by simp, word := word_thread, blank := hgap
           apart := fun hg => ?_, begins := hbegins, one_line := fun hn => ?_ }
  · -- the command is followed by a blank, so without a gap nothing follows it
    by_contra hne
    obtain ⟨c, r, hc⟩ := List.exists_cons_of_ne_nil hne
    rw [hg, hc] at hcut
    have hblank := hbehind c (by rw [htail, hcut]; rfl)
    have hnot := hbegins c (by rw [hc]; rfl)
    simp [hnot] at hblank
  · refine hline ?_
    rw [hl, htail, hcut]
    exact List.mem_append_right _ (List.mem_append_left _ (List.mem_append_right _ hn))

/-- **A line whose first word is `/thread`**, with nothing before it, is a command: it asks for a reply, or is
    refused because it does not. -/
theorem parse_of_firstWord (hslash : line.toList.head? = some '/') (hfirst : firstWord line = "/thread".toList)
    (hline : '\n' ∉ line.toList) :
    isCommand line = true ∧
      ((∃ word text, parse line = .ok (.thread word text)) ∨ parse line = .error .badThread) := by
  obtain ⟨s, rest, hx, hs⟩ := form_of_firstWord hslash hfirst hline
  refine ⟨by simp [isCommand, hx, hs], ?_⟩
  rw [parse_of_thread hx hs]
  cases thread? rest with
  | none => exact .inr rfl
  | some found => exact .inl ⟨_, _, rfl⟩

/-- A line that does not begin with a slash is no command. -/
theorem isCommand_of_head (h : line.toList.head? ≠ some '/') : isCommand line = false := by
  unfold isCommand
  split
  · next s hx =>
      obtain ⟨_, tail, _, hl⟩ := Text.trimEnd_eq_iff.mp hx
      exact absurd (by rw [hl]; rfl) h
  · rfl

end TeamChat.Slash
