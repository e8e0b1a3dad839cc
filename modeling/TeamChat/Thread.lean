import TeamChat.Register
import TeamChat.Stamp

/-!
# Threads and their aliases

A thread is named by the timestamp of its first message, which is too long to type. Its alias is the
number of whole seconds of that timestamp in base 62. The table of aliases maps what is typed back to
the timestamp.

## Contents
- `alphabet`, `word`: numbers in base 62.
- `aliasOf`: the alias of a thread.
- `Thread.Reference`, `Thread.Table`: aliases that were shown and the table of them.
-/

namespace TeamChat.Thread

/-! ## Words in base 62 -/

/-- The digits of base 62, in the order of their values. -/
def alphabet : List Char :=
  "abcdefghijklmnopqrstuvwxyzABCDEFGHIJKLMNOPQRSTUVWXYZ1234567890".toList

/-- The character of a digit. -/
def symbol (d : Nat) : Char :=
  alphabet.getD d 'a'

/-- A number in base 62, most significant digit first. -/
def word (n : Nat) : String :=
  String.ofList ((Numeral.digits 62 n).map symbol)

/-- A word is never empty, zero has one digit. -/
theorem word_ne_empty (n : Nat) : word n ≠ "" := by
  intro h
  have hl : (Numeral.digits 62 n).map symbol = [] := by
    have := congrArg String.toList h
    simpa [word] using this
  exact Numeral.digits_ne_nil 62 n (List.map_eq_nil_iff.mp hl)

/-! ## Aliases -/

/-- The alias of the thread that a timestamp names. Only its whole seconds take part. -/
def aliasOf (stamp : String) : String :=
  word (Stamp.seconds stamp)

/-- A thread that was shown, with its alias. -/
structure Reference where
  /-- The alias. -/
  word : String
  stamp : String
deriving DecidableEq, Repr

/-- The aliases that were shown, each with the last thread that was shown under it. -/
abbrev Table := Register String

namespace Table

/-- The table with one more thread. -/
def register (t : Table) (stamp : String) : Reference × Table :=
  (⟨aliasOf stamp, stamp⟩, t.set (aliasOf stamp) stamp)

/-- The timestamp of the thread with an alias. -/
def lookup (t : Table) (word : String) : Option String :=
  t.get? word

theorem lookup_register (t : Table) (stamp : String) :
    (t.register stamp).2.lookup (aliasOf stamp) = some stamp :=
  t.get?_set_self _ _

end Table

end TeamChat.Thread
