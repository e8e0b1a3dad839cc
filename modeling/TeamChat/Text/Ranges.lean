/-!
# Sets of characters as ranges of code points

A character property is a table of inclusive ranges. The tables themselves stand in the modules that
are named for the property.

## Contents
- `Ranges`, `Ranges.contains`: a table and membership in it.
-/

namespace TeamChat.Text

/-- A set of characters, given as inclusive ranges of code points. -/
abbrev Ranges := List (Nat × Nat)

/-- Whether a character lies in one of the ranges. -/
def Ranges.contains (table : Ranges) (c : Char) : Bool :=
  table.any fun r => r.1 ≤ c.toNat && c.toNat ≤ r.2

end TeamChat.Text
