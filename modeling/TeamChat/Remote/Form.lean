import TeamChat.Numeral

/-!
# Forms

A form is a list of keys with values, written as `key=value` with `&` between the pairs. Letters, digits
and `*-._` stand for themselves, a space is a plus sign, and every other byte is written in hexadecimal
behind a percent sign, so the separators never stand inside a key or a value.

## Contents
- `Form.encode`: a form as text.
- `Form.decode?`: the form of a text.
-/

namespace TeamChat.Remote.Form

/-! ## Writing -/

/-- The bytes that stand for themselves. -/
def isPlain (b : UInt8) : Bool :=
  let c := Char.ofNat b.toNat
  c.isAlphanum || c == '*' || c == '-' || c == '.' || c == '_'

/-- A digit of base sixteen, letters in upper case. -/
def hexDigit (n : Nat) : Char :=
  Char.ofNat (if n < 10 then 48 + n else 55 + n)

/-- A byte of a key or a value. -/
def encodeByte (b : UInt8) : List Char :=
  if isPlain b then [Char.ofNat b.toNat]
  else if b = 32 then ['+']
  else ['%', hexDigit (b.toNat / 16), hexDigit (b.toNat % 16)]

/-- The bytes of a text. -/
def bytes (s : String) : List UInt8 :=
  s.toList.flatMap String.utf8EncodeChar

/-- A key or a value. -/
def encodeText (s : String) : List Char :=
  (bytes s).flatMap encodeByte

/-- A key with its value. -/
def encodeField (f : String × String) : List Char :=
  encodeText f.1 ++ '=' :: encodeText f.2

/-- A form as text. -/
def encode (fields : List (String × String)) : String :=
  String.ofList (['&'].intercalate (fields.map encodeField))

/-! ## Reading -/

/-- The bytes of a key or a value. A percent sign without two digits behind it stands for itself. -/
def decodeBytes : List Char → List UInt8
  | [] => []
  | '+' :: r => 32 :: decodeBytes r
  | '%' :: a :: b :: r =>
    match Numeral.digitValue? 16 a, Numeral.digitValue? 16 b with
    | some hi, some lo => UInt8.ofNat (hi * 16 + lo) :: decodeBytes r
    | _, _ => 37 :: decodeBytes (a :: b :: r)
  | c :: r => String.utf8EncodeChar c ++ decodeBytes r

/-- A key or a value, if its bytes are those of a text. -/
def decodeText? (s : List Char) : Option String :=
  String.fromUTF8? (decodeBytes s).toByteArray

/-- A key with its value: what stands before and behind the first equals sign. Without one the value is
empty. -/
def decodeField? (s : List Char) : Option (String × String) := do
  let key ← decodeText? (s.takeWhile (· ≠ '='))
  let value ← decodeText? (s.dropWhile (· ≠ '=')).tail
  some (key, value)

/-- The form of a text. Where nothing stands between two separators there is no pair. -/
def decode? (body : String) : Option (List (String × String)) :=
  ((body.toList.splitOn '&').filter fun s => !s.isEmpty).mapM decodeField?

end TeamChat.Remote.Form
