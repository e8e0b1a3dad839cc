import TeamChat.Json.Basic
import TeamChat.Numeral

/-!
# Reading JSON numbers

A number without point and exponent is an integer if it fits in 64 bits, signed or unsigned. Every
other number is a floating point number, got in two steps: the digits that fit in 64 bits make a
significand, rounded to a binary number, and that is multiplied or divided by a power of ten, rounded
again. Digits that do not fit only count as places. So `-0` is a floating point number, and a number
beyond the greatest one has no value.

## Contents
- `Significand`, `addWhole`, `addFraction`: digits gathered while they fit.
- `float?`: a significand times a power of ten, in rounded steps.
- `number?`: the number at the start of a text.
-/

namespace TeamChat.Json

/-! ## Gathering digits -/

/-- Digits that fit in 64 bits, the power of ten they are to be multiplied with, and whether a digit
before the point did not fit. -/
structure Significand where
  value : Nat
  scale : Int
  overflow : Bool
deriving DecidableEq, Repr

/-- Digits before the point: once one does not fit, it and all later ones are counted as places. -/
def addWhole (s : Significand) (d : Nat) : Significand :=
  if s.overflow ∨ UInt64.size ≤ s.value * 10 + d then { s with scale := s.scale + 1, overflow := true }
  else { s with value := s.value * 10 + d }

/-- Digits behind the point, up to the first one that does not fit. -/
def addFraction (s : Significand) : List Nat → Significand
  | [] => s
  | d :: r =>
    if UInt64.size ≤ s.value * 10 + d then s
    else addFraction { s with value := s.value * 10 + d, scale := s.scale - 1 } r

/-! ## Rounded scaling -/

/-- The binary number nearest to a power of ten, at most the 308th. -/
def tenTo (k : Nat) : Binary64 :=
  (Binary64.ofNat? (Numeral.powerOfTen k)).getD (Binary64.zero false)

/-- Division by a power of ten, in steps of at most 308 places until nothing is left. -/
def shrink (x : Binary64) (k : Nat) : Binary64 :=
  if k ≤ 308 then (x.div (tenTo k)).getD (Binary64.zero false)
  else if x.mantissa = 0 then Binary64.zero false
  else shrink ((x.div (tenTo 308)).getD (Binary64.zero false)) (k - 308)
termination_by k
decreasing_by omega

/-- A significand times a power of ten, `none` beyond the greatest number. -/
def float? (negative : Bool) (significand : Nat) (scale : Int) : Option Binary64 :=
  let sign (x : Binary64) : Binary64 := { x with negative }
  match Binary64.ofNat? significand with
  | none => none
  | some x =>
    if significand = 0 then some (Binary64.zero negative)
    else if scale < 0 then some (sign (shrink x scale.natAbs))
    else if 308 < scale then none
    else (x.mul (tenTo scale.toNat)).map sign

/-! ## The number at the start of a text -/

/-- The digits at the start of a text, as values. -/
def leadingDigits (s : List Char) : List Nat :=
  (s.takeWhile Char.isDigit).map fun c => c.toNat - 48

/-- An exponent at the start of a text: none, or a sign and at least one digit. -/
def exponent? : List Char → Option (Option Int × List Char)
  | c :: r =>
    if c = 'e' ∨ c = 'E' then
      let (negative, r) := match r with
        | '+' :: r => (false, r)
        | '-' :: r => (true, r)
        | r => (false, r)
      match Numeral.read? 10 (r.takeWhile Char.isDigit) with
      | some n => some (some (if negative then -(n : Int) else n), r.dropWhile Char.isDigit)
      | none => none
    else some (none, c :: r)
  | [] => some (none, [])

/-- A fraction at the start of a text: none, or a point and at least one digit. -/
def fraction? : List Char → Option (Option (List Nat) × List Char)
  | '.' :: r =>
    match leadingDigits r with
    | [] => none
    | ds => some (some ds, r.dropWhile Char.isDigit)
  | r => some (none, r)

/-- The number that its parts denote. -/
def assemble? (negative : Bool) (whole : List Nat) (fraction : Option (List Nat))
    (exponent : Option Int) : Option Number :=
  let s := whole.foldl addWhole ⟨0, 0, false⟩
  match fraction, exponent, s.overflow with
  | none, none, false =>
    if !negative then some (.int s.value)
    -- a minus sign before zero, or before more than the least integer, leaves no integer
    else if s.value = 0 ∨ -(s.value : Int) < Int64.minValue.toInt then (float? true s.value 0).map .float
    else some (.int (-(s.value : Int)))
  | _, _, _ =>
    let s := addFraction s (fraction.getD [])
    (float? negative s.value (s.scale + exponent.getD 0)).map .float

/-- The number at the start of a text, behind its minus sign. A leading zero stands alone. -/
def number? (negative : Bool) (s : List Char) : Option (Number × List Char) :=
  match leadingDigits s with
  | [] => none
  | 0 :: _ :: _ => none
  | whole =>
    match fraction? (s.dropWhile Char.isDigit) with
    | none => none
    | some (fraction, r) =>
      match exponent? r with
      | none => none
      | some (exponent, r) => (assemble? negative whole fraction exponent).map (·, r)

end TeamChat.Json
