/-!
# Registers

A register keeps one value for each of finitely many names, in the order in which the names came.

## Contents
- `Register`, `get?`, `set`, `erase`, `ofList`: the map and its operations.
- `get?_set_self`, `get?_set_of_ne`: what a name holds after a change.
- `get?_set`, `size_set`: the register after a change, and when a change adds a name.
-/

namespace TeamChat

/-- Values by name. -/
structure Register (α : Type) where
  entries : List (String × α) := []
deriving Repr

namespace Register

variable {α : Type}

/-- The register without names. -/
def empty : Register α := {}

/-- The value of a name among entries. -/
def find? (name : String) : List (String × α) → Option α
  | [] => none
  | (n, x) :: r => if n = name then some x else find? name r

/-- Entries in which a name has a value: its own entry changed, or one more at the end. -/
def put (name : String) (x : α) : List (String × α) → List (String × α)
  | [] => [(name, x)]
  | (n, y) :: r => if n = name then (n, x) :: r else (n, y) :: put name x r

/-- The value of a name. -/
def get? (m : Register α) (name : String) : Option α :=
  find? name m.entries

/-- The register in which a name has a value and all other names keep theirs. -/
def set (m : Register α) (name : String) (x : α) : Register α :=
  ⟨put name x m.entries⟩

/-- The number of names. -/
def size (m : Register α) : Nat :=
  m.entries.length

/-- The names of a register. -/
def names (m : Register α) : List String :=
  m.entries.map (·.1)

/-- The register without the value of a name. -/
def erase (m : Register α) (name : String) : Register α :=
  ⟨m.entries.filter fun e => e.1 ≠ name⟩

/-- A register of the given entries, the last one for a name that is given twice. -/
def ofList (entries : List (String × α)) : Register α :=
  entries.foldl (fun m e => m.set e.1 e.2) empty

/-! ## What a name holds -/

@[simp] theorem get?_empty (name : String) : (empty : Register α).get? name = none := by
  rw [get?, empty, find?]

theorem find?_put_self (name : String) (x : α) (l : List (String × α)) :
    find? name (put name x l) = some x := by
  fun_induction put name x l with
  | case1 => simp [find?]
  | case2 => simp [find?]
  | case3 n y r h ih => simp [find?, h, ih]

theorem find?_put_of_ne {name other : String} (h : other ≠ name) (x : α)
    (l : List (String × α)) : find? other (put name x l) = find? other l := by
  fun_induction put name x l with
  | case1 => simp [find?, Ne.symm h]
  | case2 => simp [find?, Ne.symm h]
  | case3 n y r hn ih => simp [find?, ih]

@[simp] theorem get?_set_self (m : Register α) (name : String) (x : α) :
    (m.set name x).get? name = some x :=
  find?_put_self name x m.entries

theorem get?_set_of_ne (m : Register α) {name other : String} (h : other ≠ name) (x : α) :
    (m.set name x).get? other = m.get? other :=
  find?_put_of_ne h x m.entries

theorem get?_set (m : Register α) (name other : String) (x : α) :
    (m.set name x).get? other = if other = name then some x else m.get? other := by
  by_cases h : other = name
  · subst h
    simp
  · rw [if_neg h, get?_set_of_ne m h]

/-! ## How many names there are -/

theorem length_put (name : String) (x : α) (l : List (String × α)) :
    (put name x l).length = l.length + if (find? name l).isSome then 0 else 1 := by
  fun_induction put name x l with
  | case1 => simp [find?]
  | case2 => simp [find?]
  | case3 n y r h ih => simp only [List.length_cons, ih, find?, if_neg h]; omega

/-- A name counts once, however often it is set. -/
theorem size_set (m : Register α) (name : String) (x : α) :
    (m.set name x).size = m.size + if (m.get? name).isSome then 0 else 1 :=
  length_put name x m.entries

end Register

end TeamChat
