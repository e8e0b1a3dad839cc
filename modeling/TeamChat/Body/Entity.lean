import TeamChat.Body.Names
import TeamChat.Numeral

/-!
# Character references

A text escapes characters by references from an ampersand to a semicolon: names, and code points in base
ten or sixteen. A reference is at most 13 bytes long. What is no reference is copied, and what a
reference stands for is not read again.

## Contents
- `Body.character?`: the character that a reference names.
- `Body.reference?`: the reference behind an ampersand.
- `Body.unescape`: a text with its references replaced.
- `Body.escape`: a text in which no character is taken for a part of a reference.
-/

namespace TeamChat.Body

/-- The character with a code point, if there is one. -/
def scalar? (n : Nat) : Option Char :=
  if n < 0xD800 ∨ (0xDFFF < n ∧ n < 0x110000) then some (Char.ofNat n) else none

/-- The character that stands between ampersand and semicolon. -/
def character? : List Char → Option Char
  | '#' :: 'x' :: digits | '#' :: 'X' :: digits =>
    (Numeral.readUnsigned? 16 UInt32.size digits).bind scalar?
  | '#' :: digits => (Numeral.readUnsigned? 10 UInt32.size digits).bind scalar?
  | name => (namedCharacters.find? fun e => e.1.toList = name).map fun e => Char.ofNat e.2

/-- The bytes of a text. -/
def byteSize : List Char → Nat
  | [] => 0
  | c :: r => c.utf8Size + byteSize r

/-- The character of the reference that begins behind an ampersand, and the text behind its semicolon. -/
def reference? (s : List Char) : Option (Char × List Char) :=
  -- thirteen bytes less the ampersand and the semicolon
  let name := (s.take 11).takeWhile (· ≠ ';')
  match s.drop name.length with
  | ';' :: rest => if byteSize name ≤ 11 then (character? name).map (·, rest) else none
  | _ => none

theorem length_lt_of_reference? {s rest : List Char} {c : Char}
    (h : reference? s = some (c, rest)) : rest.length < s.length := by
  simp only [reference?] at h
  split at h
  · rename_i r hd
    split at h
    · obtain ⟨d, _, hr⟩ := Option.map_eq_some_iff.mp h
      cases hr
      have := congrArg List.length hd
      simp only [List.length_drop, List.length_cons] at this
      omega
    · cases h
  · cases h

/-- A text with its references replaced. -/
def unescapeList : List Char → List Char
  | [] => []
  | c :: s =>
    if c = '&' then
      match h : reference? s with
      | some (d, rest) =>
        have := length_lt_of_reference? h
        d :: unescapeList rest
      | none => c :: unescapeList s
    else c :: unescapeList s
termination_by s => s.length
decreasing_by
  all_goals simp_wf
  all_goals omega

/-- A text with its references replaced. -/
def unescape (text : String) : String :=
  String.ofList (unescapeList text.toList)

/-- How a character is written so that it stands for itself. -/
def escapeChar (c : Char) : List Char :=
  if c = '&' then "&amp;".toList
  else if c = '<' then "&lt;".toList
  else if c = '>' then "&gt;".toList
  else [c]

/-- A text in which ampersands and angle brackets are references. -/
def escape (text : String) : String :=
  String.ofList (text.toList.flatMap escapeChar)

end TeamChat.Body
