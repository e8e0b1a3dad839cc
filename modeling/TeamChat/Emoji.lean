import TeamChat.Emoji.Table

/-!
# Emoji in text

A code is a run of letters, digits, `_`, `+` and `-` between colons. Codes are looked for from left to
right; a code that is not known is copied with both of its colons, so neither colon begins or ends
another code.

## Contents
- `Emoji.find?`: the emoji of a code, by binary search in the table.
- `Emoji.scan?`: the entry of a code in a list, by looking at one after the other.
- `Emoji.code?`, `Emoji.replace`: codes in a text.
-/

namespace TeamChat.Emoji

/-! ## Looking codes up -/

/-- Binary search in a part of a table sorted by code. -/
def search (t : Array (String × String)) (code : String) (lo hi : Nat) : Option String :=
  if lo < hi then
    let mid := lo + (hi - lo) / 2
    match t[mid]? with
    | none => none
    | some (key, emoji) =>
      if key = code then some emoji
      else if key < code then search t code (mid + 1) hi
      else search t code lo mid
  else none
termination_by hi - lo

/-- The emoji of a code. -/
def find? (code : String) : Option String :=
  search table code 0 table.size

/-- The text of the first entry with a code. -/
def scan? (code : String) : List (String × String) → Option String
  | [] => none
  | (key, emoji) :: r => if key = code then some emoji else scan? code r

/-! ## Codes in a text -/

/-- The characters that codes are made of. -/
def isCodeChar (c : Char) : Bool :=
  c.isAlphanum || c == '_' || c == '+' || c == '-'

/-- The name of the code that begins behind a colon, and the text behind its second colon. -/
def code? (s : List Char) : Option (List Char × List Char) :=
  let name := s.takeWhile isCodeChar
  match s.dropWhile isCodeChar with
  | ':' :: rest => if name.isEmpty then none else some (name, rest)
  | _ => none

theorem length_dropWhile_le {α : Type} (p : α → Bool) (s : List α) :
    (s.dropWhile p).length ≤ s.length :=
  (List.dropWhile_sublist p).length_le

theorem length_lt_of_code? {s name rest : List Char} (h : code? s = some (name, rest)) :
    rest.length < s.length := by
  have hle := length_dropWhile_le isCodeChar s
  simp only [code?] at h
  split at h
  · rename_i hd
    rw [hd, List.length_cons] at hle
    split at h
    · cases h
    · cases h
      exact hle
  · cases h

/-- A code with its colons. -/
def written (name : List Char) : List Char :=
  ':' :: name ++ [':']

/-- What is shown for a code: its emoji, or the code itself. -/
def shown (name : List Char) : List Char :=
  match find? (String.ofList (written name)) with
  | some emoji => emoji.toList
  | none => written name

/-- A text with its known codes replaced. -/
def replaceList : List Char → List Char
  | [] => []
  | c :: s =>
    if c = ':' then
      match h : code? s with
      | some (name, rest) =>
        have := length_lt_of_code? h
        shown name ++ replaceList rest
      | none => c :: replaceList s
    else c :: replaceList s
termination_by s => s.length
decreasing_by
  all_goals simp_wf
  all_goals omega

/-- A text with its known codes replaced. -/
def replace (text : String) : String :=
  String.ofList (replaceList text.toList)

end TeamChat.Emoji
