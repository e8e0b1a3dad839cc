import TeamChat.Binary64.Decimal
import TeamChat.Calendar.Instant

/-!
# Timestamps of messages

A message is named by its timestamp, a decimal fraction of seconds such as `1700000000.000100`. Its
whole seconds give the time that is shown and the alias of its thread. Any text may stand where a
timestamp is expected; one that is no number counts as the start of 1970.

## Contents
- `Stamp.seconds`: the whole seconds of a stamp, as a number of 64 bits without sign.
- `Stamp.instant`: the instant that is shown for a stamp.
-/

namespace TeamChat.Stamp

/-- The number a stamp denotes. -/
def reading? (stamp : String) : Option Binary64.Reading :=
  Binary64.Reading.ofText? stamp.toList

/-- The whole seconds of a stamp, at most the greatest number of 64 bits, and zero for a negative stamp
and for one that is not finite. -/
def seconds (stamp : String) : Nat :=
  match reading? stamp with
  | some (.finite x) => if x.negative then 0 else min x.floor (UInt64.size - 1)
  | _ => 0

/-- The signed whole seconds of a stamp, cut to 64 bits. -/
def signedSeconds (stamp : String) : Int :=
  match reading? stamp with
  | some (.finite x) => max Int64.minValue.toInt (min x.truncate Int64.maxValue.toInt)
  | some (.infinite negative) =>
    if negative then Int64.minValue.toInt else Int64.maxValue.toInt
  | _ => 0

/-- The instant of a stamp, and the start of 1970 for one beyond the representable years. -/
def instant (stamp : String) : Calendar.Instant :=
  (Calendar.Instant.ofSeconds? (signedSeconds stamp)).getD .epoch

end TeamChat.Stamp
