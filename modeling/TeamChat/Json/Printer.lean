import TeamChat.Json.Basic
import TeamChat.Binary64.Shortest

/-!
# Writing JSON

Values are written without blanks. Quotes, backslashes and control characters are always escaped; which
other characters are is up to the caller, and those beyond `U+FFFF` are then written as surrogate
pairs.

## Contents
- `escape`, `quoted`: strings.
- `print`, `text`, `asciiText`: whole values.
-/

namespace TeamChat.Json

/-- A code unit as `\uXXXX`. -/
def unitEscape (n : Nat) : List Char :=
  let ds := Numeral.hexadecimal n
  ['\\', 'u'] ++ List.replicate (4 - ds.length) '0' ++ ds

/-- A character as one or two code units. -/
def charEscape (c : Char) : List Char :=
  let n := c.toNat
  if n < 0x10000 then unitEscape n
  else unitEscape (0xD800 + (n - 0x10000) / 0x400) ++ unitEscape (0xDC00 + (n - 0x10000) % 0x400)

/-- A character inside a string; `plain` says which characters may stand for themselves. -/
def escape (plain : Char → Bool) (c : Char) : List Char :=
  if c = '"' then ['\\', '"']
  else if c = '\\' then ['\\', '\\']
  else if c = '\n' then ['\\', 'n']
  else if c = '\r' then ['\\', 'r']
  else if c = '\t' then ['\\', 't']
  else if c = '\x08' then ['\\', 'b']
  else if c = '\x0c' then ['\\', 'f']
  else if c.toNat < 0x20 || !plain c then charEscape c
  else [c]

/-- A string with its quotes. -/
def quoted (plain : Char → Bool) (s : String) : List Char :=
  '"' :: s.toList.flatMap (escape plain) ++ ['"']

/-- A number as it is read. -/
def Number.print : Number → List Char
  | .int z => Numeral.signed z
  | .float x => x.toText

mutual

/-- A value as text. -/
def print (plain : Char → Bool) : Json → List Char
  | .null => ['n', 'u', 'l', 'l']
  | .bool true => ['t', 'r', 'u', 'e']
  | .bool false => ['f', 'a', 'l', 's', 'e']
  | .num n => n.print
  | .str s => quoted plain s
  | .arr items => '[' :: printItems plain items ++ [']']
  | .obj members => '\x7b' :: printMembers plain members ++ ['\x7d']

/-- Items with commas between them. -/
def printItems (plain : Char → Bool) : List Json → List Char
  | [] => []
  | [v] => print plain v
  | v :: r => print plain v ++ ',' :: printItems plain r

/-- Members with commas between them. -/
def printMembers (plain : Char → Bool) : List (String × Json) → List Char
  | [] => []
  | [(k, v)] => quoted plain k ++ ':' :: print plain v
  | (k, v) :: r => quoted plain k ++ ':' :: print plain v ++ ',' :: printMembers plain r

end

/-- A value as text. -/
def text (v : Json) : String :=
  String.ofList (print (fun _ => true) v)

/-- A value as text in ASCII. -/
def asciiText (v : Json) : String :=
  String.ofList (print (fun c => c.toNat < 0x7F) v)

end TeamChat.Json
