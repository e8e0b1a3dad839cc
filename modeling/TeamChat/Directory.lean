import TeamChat.Directory.Store
import TeamChat.Remote.Call

/-!
# The directory of users

The directory knows the names of users. It looks into its memory first, then into the durable store, where
only fresh rows count. A name that was found out is written to both; the placeholder for one that was not
found out stays in memory. A store that fails is passed over.

A look-up that comes upon a row whose age does not fit into 64 bits stops the program. The directory notes
that it did (`Directory.stopped`); whatever a session does with it afterwards does not happen.

## Contents
- `Directory`, `Directory.openAt`, `reopen`, `updateStore`, `prime`: memory and store.
- `Directory.find`, `Directory.missed`: a name that is known, and what is noted of one that is not.
- `Directory.settle`: what is remembered of an answer of the service.
-/

namespace TeamChat

/-- The names of users that are known. -/
structure Directory where
  memory : Register String := {}
  store : Option Directory.Store := none
  /-- Whether a look-up stopped the program. -/
  stopped : Bool := false
deriving Repr

namespace Directory

/-- Why a user has no name: the placeholder, and the failure of the call that asked for it. -/
structure Unresolved where
  placeholder : String
  cause : Remote.ApiError
deriving DecidableEq, Repr

/-- A failure in words. -/
def Unresolved.message (u : Unresolved) : String :=
  "Could not resolve user, using " ++ Text.quote u.placeholder ++ ": " ++ u.cause.message

/-- Whether there is a durable store. -/
def hasStore (d : Directory) : Bool :=
  d.store.isSome

/-- A directory that remembers nothing, over a store that is opened anew if it can be. -/
def openAt (site : Site) (disk : Disk) : Directory :=
  { store := (Store.openAt site disk).toOption }

/-- The directory after its store was closed and opened again, with nothing remembered. -/
def reopen (d : Directory) : Directory :=
  { store := d.store.bind fun s => s.reopen.toOption }

/-- The database that lasts, if there is one. -/
def durable? (d : Directory) : Option Database :=
  d.store.bind Store.durable?

/-- Changes the store, if there is one and the change succeeds. -/
def updateStore (f : Database → Except StoreError Database) (d : Directory) : Directory :=
  { d with store := d.store.map fun s => (s.update f).toOption.getD s }

/-- Remembers a name. -/
def prime (user name : String) (d : Directory) : Directory :=
  { d with memory := d.memory.set user name }

/-- The fresh name of a user in the store. -/
def stored? (now : Int64) (user : String) (d : Directory) : Option String :=
  match d.store with
  | none => none
  | some s =>
    match s.database.getFresh now user with
    | .ok row => row.map (·.name)
    | .error _ => none

/-- Whether the age of the row of a user does not fit into 64 bits. -/
def overflowsAt (now : Int64) (user : String) (d : Directory) : Bool :=
  match d.store with
  | none => false
  | some s =>
    match s.database.getFresh now user with
    | .error .overflow => true
    | _ => false

/-- The directory in which a name was not found. -/
def missed (now : Int64) (user : String) (d : Directory) : Directory :=
  { d with stopped := d.stopped || d.overflowsAt now user }

/-- Writes a name to the store. -/
def persist (now : Int64) (user name : String) (d : Directory) : Directory :=
  match d.store with
  | none => d
  | some s =>
    match s.update (Database.upsert user ⟨name, now⟩) with
    | .ok s => { d with store := some s }
    | .error _ => d

/-- A name that is known already, and the directory that remembers where it was found. -/
def find (now : Int64) (user : String) (d : Directory) : Option String × Directory :=
  match d.memory.get? user with
  | some name => (some name, d)
  | none =>
    match d.stored? now user with
    | some name => (some name, d.prime user name)
    | none => (none, d.missed now user)

/-- The name of a user after the service was asked, and what is remembered of its answer. -/
def settle (now : Int64) (user : String) (answer : Except Remote.ApiError Wire.User) (d : Directory) :
    Except Unresolved String × Directory :=
  match answer with
  | .ok u =>
    let name := u.displayName user
    (.ok name, (d.prime user name).persist now user name)
  | .error cause =>
    (.error ⟨unknownUser user, cause⟩, d.prime user (unknownUser user))

/-- A name, or else the placeholder. -/
def nameOf : Except Unresolved String → String
  | .ok name => name
  | .error u => u.placeholder

end Directory

end TeamChat
