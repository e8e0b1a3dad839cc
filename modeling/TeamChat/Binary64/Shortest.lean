import TeamChat.Binary64
import TeamChat.Numeral

/-!
# The shortest decimal of a binary number

Of the decimals that read back as a number, the text shows one with the fewest digits, and of those
the nearest one. A decimal reads back if it lies between the midpoints to the number's neighbours; the
midpoints themselves belong to a number with an even mantissa.

For each count of digits only the number's two neighbours on the grid of such decimals can be nearest,
so the first count for which one of them reads back is the fewest.

## Contents
- `decade`: the greatest power of ten not above a quotient.
- `Interval`: the decimals that read back.
- `shortest`: digits and power of ten.
- `toText`: positional below `10 ^ 16` and down to `10 ^ -5`, else with an exponent.
-/

namespace TeamChat.Binary64

open Numeral (powerOfTen)

/-- `10 ^ k ≤ num / den`. -/
def powerLe (k : Int) (num den : Nat) : Bool :=
  powerOfTen k.toNat * den ≤ num * powerOfTen (-k).toNat

/-- The greatest power of ten not above `num / den`, as its exponent. -/
def decade (num den : Nat) : Int :=
  let k := binade num den * 30103 / 100000
  if powerLe (k + 1) num den then k + 1 else if powerLe k num den then k else k - 1

/-- The numbers that round to one binary number: from `low / unit` to `high / unit`. -/
structure Interval where
  low : Nat
  high : Nat
  unit : Nat
  closed : Bool

/-- The midpoints to the neighbours of a positive number. The lower neighbour of a power of two is
only half as far away as the upper one, save at the least exponent. -/
def interval (x : Binary64) : Interval :=
  let below := if x.mantissa = leadingBit ∧ minExponent < x.exponent then 1 else 2
  { low := (4 * x.mantissa - below) <<< x.exponent.toNat
    high := (4 * x.mantissa + 2) <<< x.exponent.toNat
    unit := 4 <<< (-x.exponent).toNat
    closed := x.mantissa % 2 = 0 }

/-- Whether the decimal `n · 10 ^ k` lies in the interval. -/
def Interval.contains (i : Interval) (n : Nat) (k : Int) : Bool :=
  let v := n * powerOfTen k.toNat * i.unit
  let t := powerOfTen (-k).toNat
  if i.closed then i.low * t ≤ v && v ≤ i.high * t else i.low * t < v && v < i.high * t

/-- The decimal of a positive number on the grid of multiples of `10 ^ k`, if one reads back. -/
def onGrid? (x : Binary64) (k : Int) : Option Nat :=
  let num := x.ratio.1 * powerOfTen (-k).toNat
  let den := x.ratio.2 * powerOfTen k.toNat
  let n := num / den
  let i := x.interval
  match i.contains n k, i.contains (n + 1) k with
  | true, true => some (roundDiv num den)
  | true, false => some n
  | false, true => some (n + 1)
  | false, false => none

/-- The decimal nearest to a positive number on the first grid, from `10 ^ k` down, on which one
reads back; on the last grid to be tried, the nearest one there. -/
def firstGrid (x : Binary64) : Nat → Int → Nat × Int
  | 0, k => (roundDiv (x.ratio.1 * powerOfTen (-k).toNat) (x.ratio.2 * powerOfTen k.toNat), k)
  | tries + 1, k =>
    match x.onGrid? k with
    | some n => (n, k)
    | none => firstGrid x tries (k - 1)

/-- Digits without their trailing zeros, which move into the power of ten. -/
def trimZeros (n : Nat) (k : Int) : Nat × Int :=
  if 0 < n ∧ n % 10 = 0 then trimZeros (n / 10) (k + 1) else (n, k)
termination_by n
decreasing_by omega

/-- The fewest digits, with their power of ten, that read back as a positive number. Seventeen
digits always do. -/
def shortest (x : Binary64) : Nat × Int :=
  let (n, k) := x.firstGrid 16 (decade x.ratio.1 x.ratio.2)
  trimZeros n k

/-- Digits `ds` times `10 ^ k`: positional with at least one digit on either side of the point if
the first digit has a weight from `10 ^ -5` to `10 ^ 15`, else with a signed exponent. -/
def layout (ds : List Char) (k : Int) : List Char :=
  let point := (ds.length : Int) + k
  if 0 ≤ k ∧ point ≤ 16 then ds ++ List.replicate k.toNat '0' ++ ['.', '0']
  else if 0 < point ∧ point ≤ 16 then ds.take point.toNat ++ '.' :: ds.drop point.toNat
  else if -5 < point ∧ point ≤ 0 then
    ['0', '.'] ++ List.replicate (-point).toNat '0' ++ ds
  else
    let head := match ds with
      | d :: e :: r => d :: '.' :: e :: r
      | ds => ds
    let e := point - 1
    head ++ ['e', if e < 0 then '-' else '+'] ++ Numeral.decimal e.natAbs

/-- The shortest text that reads back as the number. -/
def toText (x : Binary64) : List Char :=
  let sign := if x.negative then ['-'] else []
  if x.mantissa = 0 then sign ++ ['0', '.', '0']
  else sign ++ layout (Numeral.decimal x.shortest.1) x.shortest.2

end TeamChat.Binary64
