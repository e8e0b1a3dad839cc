import TeamChat.Proofs.Session.Along
import TeamChat.Proofs.Slash.Grammar

/-!
# `Slash.Means`: what a line means

A line is read without the blanks at its end. `Means` says what it then means, by its form alone: a command for the
service, a reply, a reply that does not say where or what, or no command. What a line means is what is read, and
nothing else is (`means_parse`, `Means.parse_eq`). The question whether a line is a command is asked apart from that,
before anything is sent; since it goes by the same form, a line that is sent is never refused for being no command.

## Contents
- `Slash.Means`, `means_parse`, `Means.parse_eq`: the meaning of a line.
- `isCommand_iff_form`, `Means.refused_iff`: which lines have the form of a command.
- `Service.submit_ne_notACommand`: what is sent is not refused for being no command.
- `parse_by_grammar`: reading goes by the form.
-/

namespace TeamChat

namespace Slash

variable {x s : List Char} {line : String} {a : Except Refusal Command}

/-! ## The meaning of a line -/

/-- **What a line means**, without the blanks at its end. A slash, a word and what follows it behind a gap is a
    command for the service, by the name of the word with its slash. For `/thread` what follows has to be a word and
    a text behind a gap once more: then it is a reply, and otherwise it does not say where or what. Whatever has not
    the form of a command is none. -/
inductive Means : List Char → Except Refusal Command → Prop
  | remote {s w gap rest : List Char} (form : Splits s w gap rest) (other : w ≠ "thread".toList) :
      Means ('/' :: s) (.ok (.remote (String.ofList ('/' :: w)) (String.ofList rest)))
  | reply {s gap rest word gap' text : List Char} (form : Splits s "thread".toList gap rest)
      (answer : Splits rest word gap' text) (text_ne_nil : text ≠ []) :
      Means ('/' :: s) (.ok (.thread (String.ofList word) (String.ofList text)))
  | badThread {s gap rest : List Char} (form : Splits s "thread".toList gap rest)
      (no_answer : ∀ word gap' text, Splits rest word gap' text → text = []) :
      Means ('/' :: s) (.error .badThread)
  | plain {x : List Char} (no_form : ∀ s w gap rest, x = '/' :: s → ¬ Splits s w gap rest) :
      Means x (.error (.notACommand (String.ofList x)))

/-- No reply is read of a text that has no text behind a word in it. -/
theorem thread?_eq_none_iff : thread? s = none ↔ ∀ word gap text, Splits s word gap text → text = [] := by
  constructor
  · intro hn word gap text h
    by_contra hne
    have hsome : thread? s = some (word, text) := thread?_eq_some_iff.mpr ⟨⟨gap, h⟩, hne⟩
    exact absurd (hn.symm.trans hsome) (by simp)
  · intro hall
    rw [Option.eq_none_iff_forall_ne_some]
    rintro ⟨word, text⟩ hsome
    obtain ⟨⟨gap, h⟩, hne⟩ := thread?_eq_some_iff.mp hsome
    exact hne (hall word gap text h)

/-- Nothing is read of a text that does not split. -/
theorem wordThenRest?_eq_none_iff : wordThenRest? s = none ↔ ∀ w gap rest, ¬ Splits s w gap rest := by
  constructor
  · intro hn w gap rest h
    have hsome : wordThenRest? s = some (w, rest) := wordThenRest?_eq_some_iff.mpr ⟨gap, h⟩
    exact absurd (hn.symm.trans hsome) (by simp)
  · intro hall
    rw [Option.eq_none_iff_forall_ne_some]
    rintro ⟨w, rest⟩ hsome
    obtain ⟨gap, h⟩ := wordThenRest?_eq_some_iff.mp hsome
    exact hall w gap rest h

/-- **What is read is what the line means.** -/
theorem means_parse (line : String) : Means (Text.trimEnd line.toList) (parse line) := by
  unfold parse
  simp only []
  split
  · next s hx =>
      rw [hx]
      split
      · next hs =>
          refine .plain fun s' w gap rest he h => ?_
          obtain rfl : s = s' := (List.cons.inj he).2
          exact wordThenRest?_eq_none_iff.mp hs w gap rest h
      · next name rest hs =>
          obtain ⟨gap, h⟩ := wordThenRest?_eq_some_iff.mp hs
          by_cases hname : name = "thread".toList
          · rw [if_pos hname]
            subst hname
            split
            · next ht => exact .badThread h (thread?_eq_none_iff.mp ht)
            · next ht =>
                obtain ⟨⟨gap', h'⟩, hne⟩ := thread?_eq_some_iff.mp ht
                exact .reply h h' hne
          · rw [if_neg hname]
            exact .remote h hname
  · next hx => exact .plain fun s' _ _ _ he _ => hx s' he

/-- A line that has not the form of a command is refused for being none. -/
theorem parse_of_no_form (hx : Text.trimEnd line.toList = x)
    (hn : ∀ s w gap rest, x = '/' :: s → ¬ Splits s w gap rest) :
    parse line = .error (.notACommand (String.ofList x)) := by
  unfold parse
  simp only []
  rw [hx]
  split
  · next s =>
      have hs : wordThenRest? s = none := wordThenRest?_eq_none_iff.mpr fun w gap rest => hn s w gap rest rfl
      rw [hs]
  · rfl

/-- **What a line means is what is read.** So it means one thing only. -/
theorem Means.parse_eq (h : Means x a) (hx : Text.trimEnd line.toList = x) : parse line = a := by
  cases h with
  | @remote s w gap rest form other =>
      have hs : wordThenRest? s = some (w, rest) := wordThenRest?_eq_some_iff.mpr ⟨gap, form⟩
      simp only [parse, hx, hs, if_neg other]
  | @reply s gap rest word gap' text form answer text_ne_nil =>
      have ht : thread? rest = some (word, text) := thread?_eq_some_iff.mpr ⟨⟨gap', answer⟩, text_ne_nil⟩
      rw [parse_of_thread hx (wordThenRest?_eq_some_iff.mpr ⟨gap, form⟩), ht]
  | @badThread s gap rest form no_answer =>
      have ht : thread? rest = none := thread?_eq_none_iff.mpr no_answer
      rw [parse_of_thread hx (wordThenRest?_eq_some_iff.mpr ⟨gap, form⟩), ht]
  | plain no_form => exact parse_of_no_form hx no_form

/-! ## Lines that have the form of a command -/

/-- A line is a command if it has the form of one. -/
theorem isCommand_iff_form :
    isCommand line = true ↔ ∃ s w gap rest, Text.trimEnd line.toList = '/' :: s ∧ Splits s w gap rest := by
  unfold isCommand
  constructor
  · intro h
    split at h
    · next s hx =>
        obtain ⟨⟨w, rest⟩, hs⟩ := Option.isSome_iff_exists.mp h
        obtain ⟨gap, hsplits⟩ := wordThenRest?_eq_some_iff.mp hs
        exact ⟨s, w, gap, rest, hx, hsplits⟩
    · exact absurd h (by simp)
  · rintro ⟨s, w, gap, rest, hx, h⟩
    rw [hx]
    exact Option.isSome_iff_exists.mpr ⟨(w, rest), wordThenRest?_eq_some_iff.mpr ⟨gap, h⟩⟩

/-- A line is refused for being no command if it has not the form of one, and in no other case. -/
theorem Means.refused_iff (h : Means x a) :
    (∃ t, a = .error (.notACommand t)) ↔ ¬ ∃ s w gap rest, x = '/' :: s ∧ Splits s w gap rest := by
  cases h with
  | remote form _ => exact iff_of_false (by simp) (not_not_intro ⟨_, _, _, _, rfl, form⟩)
  | reply form _ _ => exact iff_of_false (by simp) (not_not_intro ⟨_, _, _, _, rfl, form⟩)
  | badThread form _ => exact iff_of_false (by simp) (not_not_intro ⟨_, _, _, _, rfl, form⟩)
  | plain no_form => exact iff_of_true ⟨_, rfl⟩ fun ⟨s, w, gap, rest, hx, h⟩ => no_form s w gap rest hx h

/-- The question whether a line is a command and its reading go by the same form. -/
theorem isCommand_iff_parse : isCommand line = true ↔ ∀ t, parse line ≠ .error (.notACommand t) := by
  rw [isCommand_iff_form, ← not_exists]
  exact iff_not_comm.mp (means_parse line).refused_iff

end Slash

/-! ## Sending -/

namespace Service

open Session

variable (s : Service) (channel : String) (r : Remote) (w : World)

/-- A call that fails is no line that is refused. -/
theorem request_ne_slash (c : Remote.Call) (e : Slash.Refusal) :
    value (request c) r w ≠ .error (.slash e) := by
  show (value (call c) r w).mapError ClientError.api ≠ _
  cases value (call c) r w with
  | error e' => exact fun h => absurd (Except.error.inj h) (by simp)
  | ok a => exact fun h => absurd h (by simp [Except.mapError])

/-- A command that was read is not refused for its form. -/
theorem run_ne_slash (c : Slash.Command) (e : Slash.Refusal) : value (s.run channel c) r w ≠ .error (.slash e) := by
  cases c with
  | thread word text =>
      rw [run, value_bind]
      cases value (lookupThread word) r w with
      | none => exact fun h => absurd (Except.error.inj h) (by simp)
      | some stamp => exact request_ne_slash r w _ e
  | remote name text => exact request_ne_slash r w _ e

/-- **What is sent is never refused for being no command**: a line is read as a command only if it is one. -/
theorem submit_ne_notACommand (line t : String) :
    value (s.submit channel line) r w ≠ .error (.slash (.notACommand t)) := by
  unfold submit
  by_cases hc : Slash.isCommand line = true
  · rw [if_pos hc]
    unfold sendCommand
    cases hp : Slash.parse line with
    | error e =>
        intro h
        have he : e = .notACommand t := ClientError.slash.inj (Except.error.inj h)
        exact Slash.isCommand_iff_parse.mp hc t (he ▸ hp)
    | ok c => exact run_ne_slash s channel r w c _
  · rw [if_neg hc]
    exact request_ne_slash r w _ _

end Service

namespace Slash

/-- **Lines are read by their form.** What is read of a line is what it means without the blanks at its end, and
    nothing else. A line is a command exactly if its reading does not refuse it for being none; so no line that is
    sent is refused for that. -/
theorem parse_by_grammar (line : String) :
    (∀ result, parse line = result ↔ Means (Text.trimEnd line.toList) result) ∧
    (isCommand line = true ↔ ∀ t, parse line ≠ .error (.notACommand t)) ∧
    ∀ (s : Service) (channel : String) (r : Remote) (w : World) (t : String),
      Session.value (s.submit channel line) r w ≠ .error (.slash (.notACommand t)) := by
  refine ⟨fun result => ⟨?_, ?_⟩, isCommand_iff_parse, fun s channel r w t => ?_⟩
  · rintro rfl
    exact means_parse line
  · intro h
    exact h.parse_eq rfl
  · exact s.submit_ne_notACommand channel r w line t

/-- The gaps may hold line breaks, but what follows the word of a command may not. -/
example : parse "/giphy \n cats  \n" = .ok (.remote "/giphy" "cats") ∧
    parse "/giphy cats\ndogs" = .error (.notACommand "/giphy cats\ndogs") := by
  decide +kernel

end Slash

end TeamChat
