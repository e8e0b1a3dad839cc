import TeamChat.Calendar.Date
import TeamChat.Numeral

/-!
# Instants

An instant is a count of seconds from the start of 1970 and a fraction in nanoseconds; the fraction of a
leap second is a full second or more. An instant is written in the form of RFC 3339, in UTC.

## Contents
- `Instant`, `Instant.isRepresentable`, `Instant.ofSeconds?`: the instants that can be shown.
- `Instant.date`, `Instant.secondOfDay`, `Instant.clock`: parts of an instant.
- `Instant.toText`: the written form.
-/

namespace TeamChat.Calendar

/-- A point in time. -/
structure Instant where
  seconds : Int
  nanos : Nat
deriving DecidableEq, Repr

namespace Instant

/-- The start of 1970. -/
def epoch : Instant := ⟨0, 0⟩

/-- Dates reach from the start of the year -262143 to the end of the year 262142. -/
def isRepresentable (seconds : Int) : Bool :=
  -8334601228800 ≤ seconds && seconds ≤ 8210266876799

/-- A whole second, if its date can be shown. -/
def ofSeconds? (seconds : Int) : Option Instant :=
  if isRepresentable seconds then some ⟨seconds, 0⟩ else none

/-! ## Parts -/

/-- The date, in UTC. -/
def date (t : Instant) : Date :=
  Date.ofDay (t.seconds / 86400)

/-- The seconds since midnight. -/
def secondOfDay (t : Instant) : Nat :=
  (t.seconds % 86400).toNat

/-- Hour and minute: `09:05`. -/
def clock (t : Instant) : String :=
  String.ofList (Numeral.padded 2 (t.secondOfDay / 3600) ++ ':'
    :: Numeral.padded 2 (t.secondOfDay / 60 % 60))

/-! ## Writing -/

/-- A year of four digits; outside of these a sign comes first. -/
def yearText (year : Int) : List Char :=
  if year < 0 then '-' :: Numeral.padded 4 year.natAbs
  else if 9999 < year then '+' :: Numeral.padded 4 year.natAbs
  else Numeral.padded 4 year.natAbs

/-- A fraction of three, six or nine digits, as many as it needs, and none for a whole second. -/
def fractionText (nanos : Nat) : List Char :=
  if nanos = 0 then []
  else if nanos % 1000000 = 0 then '.' :: Numeral.padded 3 (nanos / 1000000)
  else if nanos % 1000 = 0 then '.' :: Numeral.padded 6 (nanos / 1000)
  else '.' :: Numeral.padded 9 nanos

/-- A date and the time of a day, in UTC. -/
def writeParts (d : Date) (secondOfDay nanos : Nat) : List Char :=
  let second := secondOfDay % 60 + nanos / 1000000000
  yearText d.year ++ '-' :: Numeral.padded 2 d.month ++ '-' :: Numeral.padded 2 d.day
    ++ 'T' :: Numeral.padded 2 (secondOfDay / 3600)
    ++ ':' :: Numeral.padded 2 (secondOfDay / 60 % 60)
    ++ ':' :: Numeral.padded 2 second
    ++ fractionText (nanos % 1000000000) ++ ['Z']

/-- The written form: `2023-11-14T22:13:20Z`. -/
def toText (t : Instant) : String :=
  String.ofList (writeParts t.date t.secondOfDay t.nanos)

end Instant

end TeamChat.Calendar
