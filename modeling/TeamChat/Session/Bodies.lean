import TeamChat.Body
import TeamChat.Session

/-!
# Bodies with the names of users

## Contents
- `Session.namesOf`: the names of several users.
- `Session.format`: a body as it is shown.
-/

namespace TeamChat.Session

/-- The names of users, found out one after the other. -/
def namesOf : List String → Session (Register String)
  | [] => return .empty
  | user :: r => do
    let name ← nameOf user
    let names ← namesOf r
    return names.set user name

/-- A name among those that were found out. -/
def nameIn (names : Register String) (user : String) : String :=
  (names.get? user).getD user

/-- A body as it is shown. Each user that it mentions is looked up once. -/
def format (emoji : Bool) (text : String) : Session String := do
  let names ← namesOf (Body.users (Body.withEmoji emoji text))
  return Body.format emoji (nameIn names) text

end TeamChat.Session
