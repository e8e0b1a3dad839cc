import TeamChat.Numeral

/-!
# Reports of fatal errors

A report gives the outermost error first, and below it the causes: a single one is indented, several are
numbered from zero.

## Contents
- `Report.text`: a chain of errors as it is printed.
-/

namespace TeamChat.Report

/-- A text cut at its line ends. -/
def lines : List Char → List (List Char)
  | [] => [[]]
  | c :: r =>
    if c = '\n' then [] :: lines r
    else
      match lines r with
      | [] => [[c]]
      | s :: t => (c :: s) :: t

/-- Text whose first line begins with `lead`, and every other line with `indent`. -/
def indented (lead indent : List Char) (s : List Char) : List Char :=
  match lines s with
  | [] => lead
  | first :: rest => lead ++ first ++ rest.flatMap fun l => '\n' :: indent ++ l

/-- A number right-aligned in five columns, with a colon behind it. -/
def label (n : Nat) : List Char :=
  let digits := Numeral.decimal n
  List.replicate (5 - digits.length) ' ' ++ digits ++ [':', ' ']

/-- The cause of a number, on lines of its own. -/
def numbered (n : Nat) (cause : String) : List Char :=
  '\n' :: indented (label n) (List.replicate 7 ' ') cause.toList

/-- The causes of an error, none if there is no cause. -/
def causes : List String → List Char
  | [] => []
  | [cause] =>
    let indent := List.replicate 4 ' '
    "\n\nCaused by:\n".toList ++ indented indent indent cause.toList
  | chain => "\n\nCaused by:".toList ++ (chain.mapIdx numbered).flatten

/-- A chain of errors, outermost first, as it is printed. -/
def text : List String → String
  | [] => "Error: "
  | error :: chain => "Error: " ++ error ++ String.ofList (causes chain)

end TeamChat.Report
