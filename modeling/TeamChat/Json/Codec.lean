import TeamChat.Json.Mismatch

/-!
# Writing values as JSON and reading them back

A codec pairs a writer and a reader of one type. Records have one codec each, made of their fields: an
object gives fields by key, an array gives them in the order of their declaration.

## Contents
- `Codec` and the codecs of texts, truth values, integers and lists.
- `Codec.choice`: one of several names.
- `RecordField`, `Record`, `Record.codec`: records.
-/

namespace TeamChat.Json

/-- How the values of a type are written as JSON and read from it. -/
structure Codec (α : Type) where
  encode : α → Json
  decode : Json → Except Mismatch α

namespace Codec

/-! ## Single values -/

/-- A text as a string. -/
def text : Codec String where
  encode := .str
  decode
    | .str s => .ok s
    | v => .error (.type v.found "a string")

/-- A truth value. -/
def flag : Codec Bool where
  encode := .bool
  decode
    | .bool b => .ok b
    | v => .error (.type v.found "a boolean")

/-- A number of 64 bits without sign, under the name that a report gives it. -/
def unsigned (name : String) : Codec Nat where
  encode n := Json.int n
  decode
    | .num (.int z) =>
      if 0 ≤ z ∧ z < UInt64.size then .ok z.toNat else .error (.value (.int z) name)
    | v => .error (.type v.found name)

/-- An integer of 64 bits. -/
def signed : Codec Int where
  encode z := Json.int z
  decode
    | .num (.int z) =>
      if Int64.minValue.toInt ≤ z ∧ z ≤ Int64.maxValue.toInt then .ok z
      else .error (.value (.int z) "i64")
    | v => .error (.type v.found "i64")

/-- A list as an array. -/
def list {α : Type} (c : Codec α) : Codec (List α) where
  encode xs := .arr (xs.map c.encode)
  decode
    | .arr items => items.mapM c.decode
    | v => .error (.type v.found "a sequence")

/-- A value or null. -/
def optional {α : Type} (c : Codec α) : Codec (Option α) where
  encode
    | none => .null
    | some x => c.encode x
  decode
    | .null => .ok none
    | v => (c.decode v).map some

/-! ## Variants -/

/-- The name of a variant and the value that comes with it: a string is a name alone, an object of one
member a name with a value. -/
def tagged : Json → Except Mismatch (String × Option Json)
  | .str s => .ok (s, none)
  | .obj [(name, v)] => .ok (name, some v)
  | .obj _ => .error (.value .map "map with a single key")
  | v => .error (.type v.found "string or map")

/-- One of several names. -/
def choice {α : Type} [DecidableEq α] (names : List (String × α)) : Codec α where
  encode x := .str (((names.find? fun n => n.2 = x).map (·.1)).getD "")
  decode v :=
    match tagged v with
    | .error e => .error e
    | .ok (name, payload) =>
      match names.find? fun n => n.1 = name with
      | none => .error (.variant name (names.map (·.1)))
      | some (_, x) =>
        match payload with
        | none | some .null => .ok x
        | some w => .error (.type w.found "unit")

end Codec

/-! ## Records -/

/-- One field of a record: how it is written, and how reading it changes the record. -/
structure RecordField (ρ : Type) where
  name : String
  write : ρ → Json
  read : Json → ρ → Except Mismatch ρ

/-- The field that a codec and a pair of accessors make. -/
def field {ρ α : Type} (name : String) (c : Codec α) (get : ρ → α) (set : ρ → α → ρ) :
    RecordField ρ where
  name := name
  write r := c.encode (get r)
  read v r := (c.decode v).map (set r)

/-- A record: its name in reports, the value whose fields are all missing, its fields in the order of
their declaration, and whether every one of them has to be given. -/
structure Record (ρ : Type) where
  name : String
  blank : ρ
  fields : List (RecordField ρ)
  complete : Bool

namespace Record

variable {ρ : Type}

/-- Fields given by key, in the order of the keys. Keys that are no field's are passed over. -/
def readMembers (fields : List (RecordField ρ)) :
    List (String × Json) → ρ → Except Mismatch ρ
  | [], r => .ok r
  | (key, v) :: rest, r =>
    match fields.find? fun f => f.name = key with
    | none => readMembers fields rest r
    | some f =>
      match f.read v r with
      | .error e => .error e
      | .ok r => readMembers fields rest r

/-- Fields given by position. `index` counts the items read. -/
def readItems (t : Record ρ) (total : Nat) :
    Nat → List (RecordField ρ) → List Json → ρ → Except Mismatch ρ
  | _, [], [], r => .ok r
  | _, [], _ :: _, _ => .error (.surplus total t.fields.length false)
  | index, _ :: _, [], r =>
    if t.complete then .error (.shortage index t.name t.fields.length) else .ok r
  | index, f :: fs, v :: vs, r =>
    match f.read v r with
    | .error e => .error e
    | .ok r => readItems t total (index + 1) fs vs r

/-- The first field without a key, if all are needed. -/
def absent? (t : Record ρ) (members : List (String × Json)) : Option String :=
  if t.complete then
    (t.fields.find? fun f => (find? f.name members).isNone).map (·.name)
  else none

/-- An object or an array as a record. -/
def decode (t : Record ρ) : Json → Except Mismatch ρ
  | .obj members =>
    match readMembers t.fields members t.blank with
    | .error e => .error e
    | .ok r =>
      match t.absent? members with
      | some name => .error (.missing name)
      | none => .ok r
  | .arr items => t.readItems items.length 0 t.fields items t.blank
  | v => .error (.type v.found ("struct " ++ t.name))

/-- The members of a record's object. -/
def members (t : Record ρ) (r : ρ) : List (String × Json) :=
  t.fields.map fun f => (f.name, f.write r)

/-- A record as an object of all its fields. -/
def codec (t : Record ρ) : Codec ρ where
  encode r := object (t.members r)
  decode := t.decode

end Record

end TeamChat.Json
