import TeamChat.Text.Blank
import TeamChat.Text.Word

/-!
# Slash commands

A line that begins with a slash and a word is a command. The command `/thread` names a thread by its alias
and replies in it; every other command is executed by the service. Blanks at the end of a line do not
count.

## Contents
- `Slash.Command`, `Slash.Refusal`: what a line may be.
- `Slash.arguments?`, `Slash.wordThenRest?`: the two forms that a line may have.
- `Slash.parse`, `Slash.isCommand`: the commands.
-/

namespace TeamChat.Slash

/-- A command. -/
inductive Command
  /-- A reply in the thread of an alias. -/
  | thread (word text : String)
  /-- A command that the service executes, with its slash. -/
  | remote (name text : String)
deriving DecidableEq, Repr

/-- Why a line is no command. -/
inductive Refusal
  /-- It does not have the form of a command. -/
  | notACommand (line : String)
  /-- It asks for a reply without saying where or what. -/
  | badThread
deriving DecidableEq, Repr

/-- The text behind at least one blank, in one line. -/
def arguments? (s : List Char) : Option (List Char) :=
  match s with
  | [] => none
  | c :: _ =>
    let r := s.dropWhile Text.isBlank
    if Text.isBlank c && !r.contains '\n' then some r else none

/-- The word at the start of a text and what follows it. -/
def word (s : List Char) : List Char × List Char :=
  (s.takeWhile Text.isWordChar, s.dropWhile Text.isWordChar)

/-- A word, and the arguments behind it, none if the text ends. -/
def wordThenRest? (s : List Char) : Option (List Char × List Char) :=
  let (w, r) := word s
  if w.isEmpty then none
  else if r.isEmpty then some (w, [])
  else (arguments? r).map (w, ·)

/-- The alias and the text of a reply. -/
def thread? (s : List Char) : Option (List Char × List Char) :=
  match wordThenRest? s with
  | some (w, text) => if text.isEmpty then none else some (w, text)
  | none => none

/-- The command of a line. -/
def parse (line : String) : Except Refusal Command :=
  let x := Text.trimEnd line.toList
  match x with
  | '/' :: s =>
    match wordThenRest? s with
    | none => .error (.notACommand (String.ofList x))
    | some (name, text) =>
      if name = "thread".toList then
        match thread? text with
        | none => .error .badThread
        | some (w, text) => .ok (.thread (String.ofList w) (String.ofList text))
      else .ok (.remote (String.ofList ('/' :: name)) (String.ofList text))
  | _ => .error (.notACommand (String.ofList x))

/-- Whether a line has the form of a command. -/
def isCommand (line : String) : Bool :=
  match Text.trimEnd line.toList with
  | '/' :: s => (wordThenRest? s).isSome
  | _ => false

end TeamChat.Slash
