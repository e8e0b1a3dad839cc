import TeamChat.Binary64

/-!
# JSON values

Numbers keep what they were written as: a whole number in the range of 64 bits is an integer, any
other number is a binary floating point number. The members of an object are sorted by key, each key
once.

## Contents
- `Json`, `Json.Number`: the values.
- `put`, `get?`, `object`: members of an object.
- `depth`: how deep arrays and objects are nested.
-/

namespace TeamChat

/-- A number as it was written. -/
inductive Json.Number
  | int (z : Int)
  | float (x : Binary64)
deriving DecidableEq, Repr

/-- A JSON value. -/
inductive Json
  | null
  | bool (b : Bool)
  | num (n : Json.Number)
  | str (s : String)
  | arr (items : List Json)
  | obj (members : List (String × Json))
deriving Inhabited

namespace Json

/-- A whole number as a value. -/
def int (z : Int) : Json := .num (.int z)

/-- The text of a string. -/
def text? : Json → Option String
  | .str s => some s
  | _ => none

/-- The truth value of a boolean. -/
def flag? : Json → Option Bool
  | .bool b => some b
  | _ => none

/-! ## Members -/

/-- Members with one more, or with a new value for a key they have already. -/
def put (key : String) (v : Json) : List (String × Json) → List (String × Json)
  | [] => [(key, v)]
  | (k, w) :: r =>
    if key < k then (key, v) :: (k, w) :: r
    else if key = k then (key, v) :: r
    else (k, w) :: put key v r

/-- The value of a key among members. -/
def find? (key : String) : List (String × Json) → Option Json
  | [] => none
  | (k, v) :: r => if k = key then some v else find? key r

/-- The value of a key of an object; no other value has keys. -/
def get? (key : String) : Json → Option Json
  | .obj members => find? key members
  | _ => none

/-- An object of the given members, the last one for a key that is given twice. -/
def object (members : List (String × Json)) : Json :=
  .obj (members.foldl (fun ms m => put m.1 m.2 ms) [])

theorem find?_put_self (key : String) (v : Json) (ms : List (String × Json)) :
    find? key (put key v ms) = some v := by
  fun_induction put key v ms with
  | case1 => simp [find?]
  | case2 => simp [find?]
  | case3 => simp [find?]
  | case4 k w r hlt hne ih =>
    simp only [find?]
    rw [if_neg fun h => hne h.symm]
    exact ih

/-! ## Nesting -/

mutual

/-- How many arrays and objects lie around the innermost value. -/
def depth : Json → Nat
  | .arr items => itemsDepth items + 1
  | .obj members => membersDepth members + 1
  | _ => 0

/-- The greatest depth of the items of an array. -/
def itemsDepth : List Json → Nat
  | [] => 0
  | v :: r => max (depth v) (itemsDepth r)

/-- The greatest depth of the members of an object. -/
def membersDepth : List (String × Json) → Nat
  | [] => 0
  | (_, v) :: r => max (depth v) (membersDepth r)

end

end Json

end TeamChat
