import TeamChat.Json.Basic
import TeamChat.Binary64.Shortest
import TeamChat.Text.Quoted

/-!
# Values of the wrong shape

A value that is valid JSON but not what a reader expects is reported with what was found and what was
expected in its place.

## Contents
- `Found`: what a value looks like in a report.
- `Mismatch`, `Mismatch.message`: the reports and their texts.
- `Mismatch.counted`: reports about values that were held back before they were read.
-/

namespace TeamChat.Json

/-- What stood where something else was expected. -/
inductive Found
  | null
  | bool (b : Bool)
  | int (z : Int)
  | float (x : Binary64)
  | string (s : String)
  | sequence
  | map
  /-- The name of a variant without the value that belongs to it. -/
  | bareVariant
deriving DecidableEq, Repr

/-- What a value looks like. -/
def found : Json → Found
  | .null => .null
  | .bool b => .bool b
  | .num (.int z) => .int z
  | .num (.float x) => .float x
  | .str s => .string s
  | .arr _ => .sequence
  | .obj _ => .map

/-- A value in words. -/
def Found.message : Found → String
  | .null => "null"
  | .bool true => "boolean `true`"
  | .bool false => "boolean `false`"
  | .int z => "integer `" ++ String.ofList (Numeral.signed z) ++ "`"
  | .float x => "floating point `" ++ String.ofList x.toText ++ "`"
  | .string s => "string " ++ Text.quote s
  | .sequence => "sequence"
  | .map => "map"
  | .bareVariant => "unit variant"

/-- Why a value cannot be read as what was expected. -/
inductive Mismatch
  /-- A value of another type. -/
  | type (found : Found) (expected : String)
  /-- A value of the right type outside the range. -/
  | value (found : Found) (expected : String)
  /-- An array with more items than a record has fields. `counted` tells how the room is named. -/
  | surplus (length fields : Nat) (counted : Bool)
  /-- An array with fewer items than a record has required fields. -/
  | shortage (length : Nat) (record : String) (fields : Nat)
  /-- A required key that an object lacks. -/
  | missing (field : String)
  /-- A name that is none of the variants. -/
  | variant (name : String) (known : List String)
  /-- A text that its own format refuses, with that format's reason. -/
  | format (reason : String)
deriving DecidableEq, Repr

/-- A count in a report. -/
def countText (n : Nat) : String :=
  String.ofList (Numeral.decimal n)

/-- A report in words. -/
def Mismatch.message : Mismatch → String
  | .type found expected => "invalid type: " ++ found.message ++ ", expected " ++ expected
  | .value found expected => "invalid value: " ++ found.message ++ ", expected " ++ expected
  | .surplus length fields counted =>
    let room :=
      if !counted then "fewer elements in array"
      else if fields = 1 then "1 element in sequence"
      else countText fields ++ " elements in sequence"
    "invalid length " ++ countText length ++ ", expected " ++ room
  | .shortage length record fields =>
    "invalid length " ++ countText length ++ ", expected struct " ++ record ++ " with "
      ++ countText fields ++ " elements"
  | .missing field => "missing field `" ++ field ++ "`"
  | .variant name known =>
    "unknown variant `" ++ name ++ "`, expected one of "
      ++ ", ".intercalate (known.map fun k => "`" ++ k ++ "`")
  | .format reason => reason

/-- A report about a value that was held back until the record around it was read: an array that is
too long is then measured against the fields of its record. -/
def Mismatch.counted : Mismatch → Mismatch
  | .surplus length fields _ => .surplus length fields true
  | m => m

end TeamChat.Json
