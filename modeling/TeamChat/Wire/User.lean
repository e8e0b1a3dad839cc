import TeamChat.Json.Codec

/-!
# Users as the service describes them

## Contents
- `Wire.User`: the value and its record.
- `unknownUser`: what a user is called whose name cannot be found out.
- `Wire.User.displayName`: what a user is called.
-/

namespace TeamChat

/-- The placeholder for the name of a user. -/
def unknownUser (user : String) : String :=
  "unknown (" ++ user ++ ")"

namespace Wire

open Json

/-- A user. -/
structure User where
  id : String := ""
  name : String := ""
  realName : String := ""
  deleted : Bool := false
deriving DecidableEq, Repr, Inhabited

namespace User

/-- A user as a record. -/
def record : Record User where
  name := "RawUser"
  blank := {}
  complete := false
  fields := [
    field "id" Codec.text (·.id) fun u x => { u with id := x },
    field "name" Codec.text (·.name) fun u x => { u with name := x },
    field "real_name" Codec.text (·.realName) fun u x => { u with realName := x },
    field "deleted" Codec.flag (·.deleted) fun u x => { u with deleted := x }]

/-- How users are written and read. -/
def codec : Codec User := record.codec

/-- The name of the user who was asked for as `id`: the short name, else the real one, else the
placeholder. -/
def displayName (u : User) (id : String) : String :=
  if !u.name.isEmpty then u.name
  else if !u.realName.isEmpty then u.realName
  else unknownUser id

end User

end Wire

end TeamChat
