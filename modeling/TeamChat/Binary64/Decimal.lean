import TeamChat.Binary64
import TeamChat.Numeral

/-!
# Decimal fractions and the binary numbers nearest to them

A decimal is digits and a power of ten. Its binary number is the nearest one, so a text of any length
denotes one number only.

## Contents
- `Decimal`, `Decimal.nearest`: decimals, and the nearest binary number.
- `Reading`: what a text may denote besides a finite number.
- `readDecimal?`: an optional sign, digits with an optional point, an optional exponent.
- `Reading.ofText?`: the same, and the words for infinity and for no number.
-/

namespace TeamChat.Binary64

/-- The decimal `digits · 10 ^ scale` with a sign. -/
structure Decimal where
  negative : Bool
  digits : Nat
  scale : Int
deriving DecidableEq, Repr

/-- What a text may denote: a finite number, an infinity, or no number at all. -/
inductive Reading
  | finite (x : Binary64)
  | infinite (negative : Bool)
  | nan
deriving DecidableEq, Repr

/-- The binary number nearest to a decimal. Decimals of more than 310 places before the point are
beyond all numbers, and those with 330 zeros behind it are nearer to zero than any number. -/
def Decimal.nearest (d : Decimal) : Reading :=
  let places : Int := (Numeral.decimal d.digits).length + d.scale
  if d.digits = 0 ∨ places < -330 then .finite (zero d.negative)
  else if 310 < places then .infinite d.negative
  else
    let num := d.digits * Numeral.powerOfTen d.scale.toNat
    match ofRatio d.negative num (Numeral.powerOfTen (-d.scale).toNat) with
    | some x => .finite x
    | none => .infinite d.negative

/-! ## Reading -/

/-- A sign in front of a text, and the rest. -/
def readSign : List Char → Bool × List Char
  | '-' :: r => (true, r)
  | '+' :: r => (false, r)
  | r => (false, r)

/-- An exponent that ends the text, zero if there is none. -/
def readExponent? : List Char → Option Int
  | [] => some 0
  | c :: r =>
    if c = 'e' ∨ c = 'E' then
      let (negative, r) := readSign r
      (Numeral.read? 10 r).map fun n => if negative then -(n : Int) else n
    else none

/-- Digits with an optional point among them, at least one, and an optional exponent. -/
def readDecimal? (negative : Bool) (s : List Char) : Option Decimal :=
  let whole := s.takeWhile Char.isDigit
  let r := s.dropWhile Char.isDigit
  let (fraction, r) := match r with
    | '.' :: r => (r.takeWhile Char.isDigit, r.dropWhile Char.isDigit)
    | r => ([], r)
  match Numeral.read? 10 (whole ++ fraction), readExponent? r with
  | some digits, some e => some ⟨negative, digits, e - fraction.length⟩
  | _, _ => none

/-- The number a text denotes; the words for infinity and for no number stand in either case. -/
def Reading.ofText? (s : List Char) : Option Reading :=
  let (negative, r) := readSign s
  let word := r.map Char.toLower
  if word = ['i', 'n', 'f'] ∨ word = ['i', 'n', 'f', 'i', 'n', 'i', 't', 'y'] then
    some (.infinite negative)
  else if word = ['n', 'a', 'n'] then some .nan
  else (readDecimal? negative r).map Decimal.nearest

end TeamChat.Binary64
