import TeamChat.Json.Number

/-!
# Reading JSON

A text is one value, with blanks around its parts. Strings hold no control characters and no half of
a surrogate pair; arrays and objects nest up to 127 levels; of a key that an object has twice the last
value counts.

## Contents
- `skipBlank`, `string?`: blanks, and a string behind its opening quote.
- `value?`, `items?`, `members?`: values by recursive descent.
- `parse?`: a whole text.
-/

namespace TeamChat.Json

/-- A text without the blanks at its start. -/
def skipBlank (s : List Char) : List Char :=
  s.dropWhile fun c => c == ' ' || c == '\n' || c == '\t' || c == '\r'

/-! ## Strings -/

/-- The number that four hexadecimal digits stand for. -/
def hex4? (a b c d : Char) : Option Nat :=
  Numeral.read? 16 [a, b, c, d]

/-- The character behind the backslash of a short escape. -/
def shortEscape? : Char → Option Char
  | '"' => some '"'
  | '\\' => some '\\'
  | '/' => some '/'
  | 'b' => some (Char.ofNat 8)
  | 'f' => some (Char.ofNat 12)
  | 'n' => some '\n'
  | 'r' => some '\r'
  | 't' => some '\t'
  | _ => none

/-- The character of a code unit that is no half of a pair. -/
def unitChar? (n : Nat) : Option Char :=
  if 0xD800 ≤ n ∧ n ≤ 0xDFFF then none else some (Char.ofNat n)

/-- The character of a leading and a trailing half. -/
def pairChar? (high low : Nat) : Option Char :=
  if 0xD800 ≤ high ∧ high ≤ 0xDBFF ∧ 0xDC00 ≤ low ∧ low ≤ 0xDFFF then
    some (Char.ofNat (0x10000 + (high - 0xD800) * 0x400 + (low - 0xDC00)))
  else none

/-- A string from behind its opening quote: its characters, and the text behind its closing quote. -/
def string? : List Char → Option (List Char × List Char)
  | [] => none
  | '"' :: r => some ([], r)
  | '\\' :: 'u' :: a :: b :: c :: d :: '\\' :: 'u' :: e :: f :: g :: h :: r =>
    match hex4? a b c d with
    | none => none
    | some high =>
      match unitChar? high with
      | some x => (string? ('\\' :: 'u' :: e :: f :: g :: h :: r)).map fun (t, r) => (x :: t, r)
      | none =>
        match (hex4? e f g h).bind (pairChar? high) with
        | some x => (string? r).map fun (t, r) => (x :: t, r)
        | none => none
  | '\\' :: 'u' :: a :: b :: c :: d :: r =>
    match (hex4? a b c d).bind unitChar? with
    | some x => (string? r).map fun (t, r) => (x :: t, r)
    | none => none
  | '\\' :: c :: r =>
    match shortEscape? c with
    | some x => (string? r).map fun (t, r) => (x :: t, r)
    | none => none
  | c :: r =>
    if c.toNat < 0x20 ∨ c = '\\' then none else (string? r).map fun (t, r) => (c :: t, r)
termination_by s => s.length

/-! ## Values -/

mutual

/-- One value, blanks in front of it allowed. `depth` counts the brackets that may still open. -/
def value? : Nat → Nat → List Char → Option (Json × List Char)
  | 0, _, _ => none
  | fuel + 1, depth, s =>
    match skipBlank s, depth with
    | 'n' :: 'u' :: 'l' :: 'l' :: r, _ => some (.null, r)
    | 't' :: 'r' :: 'u' :: 'e' :: r, _ => some (.bool true, r)
    | 'f' :: 'a' :: 'l' :: 's' :: 'e' :: r, _ => some (.bool false, r)
    | '"' :: r, _ => (string? r).map fun (t, r) => (.str (String.ofList t), r)
    -- a bracket opens only while the depth lasts
    | '[' :: r, depth + 1 =>
      match skipBlank r with
      | ']' :: r => some (.arr [], r)
      | r => (items? fuel depth r).map fun (xs, r) => (.arr xs, r)
    | '\x7b' :: r, depth + 1 =>
      match skipBlank r with
      | '\x7d' :: r => some (.obj [], r)
      | r => (members? fuel depth [] r).map fun (ms, r) => (.obj ms, r)
    | '-' :: r, _ => (number? true r).map fun (n, r) => (.num n, r)
    | r, _ => (number? false r).map fun (n, r) => (.num n, r)

/-- The items of an array up to its closing bracket, at least one. -/
def items? : Nat → Nat → List Char → Option (List Json × List Char)
  | 0, _, _ => none
  | fuel + 1, depth, s =>
    match value? fuel depth s with
    | none => none
    | some (v, r) =>
      match skipBlank r with
      | ',' :: r => (items? fuel depth r).map fun (vs, r) => (v :: vs, r)
      | ']' :: r => some ([v], r)
      | _ => none

/-- The members of an object up to its closing bracket, at least one, added to those before. -/
def members? :
    Nat → Nat → List (String × Json) → List Char → Option (List (String × Json) × List Char)
  | 0, _, _, _ => none
  | fuel + 1, depth, before, s =>
    match skipBlank s with
    | '"' :: r =>
      match string? r with
      | none => none
      | some (key, r) =>
        match skipBlank r with
        | ':' :: r =>
          match value? fuel depth r with
          | none => none
          | some (v, r) =>
            let all := put (String.ofList key) v before
            match skipBlank r with
            | ',' :: r => members? fuel depth all r
            | '\x7d' :: r => some (all, r)
            | _ => none
        | _ => none
    | _ => none

end

/-- The greatest depth of nested arrays and objects. -/
def maxDepth : Nat := 127

/-- The value that a whole text denotes. Every step of the descent reads a character or is followed
by one that does, so twice the length of the text bounds the steps. -/
def parse? (s : String) : Option Json :=
  let cs := s.toList
  match value? (2 * cs.length + 2) maxDepth cs with
  | some (v, r) => if (skipBlank r).isEmpty then some v else none
  | none => none

end TeamChat.Json
