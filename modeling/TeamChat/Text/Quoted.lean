import TeamChat.Numeral
import TeamChat.Text.Hidden

/-!
# Quoted text

A text inside a message is shown between double quotes. A quote and a backslash are escaped, the usual
control characters have short names, and every other character that would not be seen is written as
its code point: `\u{200b}`.

## Contents
- `escapeChar`: how one character is written.
- `quote`: a text between quotes.
-/

namespace TeamChat.Text

/-- A code point in lower-case hexadecimal between braces. -/
def codePoint (c : Char) : List Char :=
  ['\\', 'u', '\x7b'] ++ Numeral.hexadecimal c.toNat ++ ['\x7d']

/-- One character of a quoted text. -/
def escapeChar (c : Char) : List Char :=
  if c.toNat = 0 then ['\\', '0']
  else if c = '\t' then ['\\', 't']
  else if c = '\r' then ['\\', 'r']
  else if c = '\n' then ['\\', 'n']
  else if c = '\\' then ['\\', '\\']
  else if c = '"' then ['\\', '"']
  else if isExtending c || !isPrintable c then codePoint c
  else [c]

/-- A text between double quotes, readable whatever characters it holds. -/
def quote (s : String) : String :=
  String.ofList ('"' :: s.toList.flatMap escapeChar ++ ['"'])

end TeamChat.Text
