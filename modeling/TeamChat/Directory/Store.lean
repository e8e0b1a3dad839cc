import TeamChat.Numeral
import TeamChat.Register

/-!
# The durable store of names

A database keeps the names that were found out, each with the time at which it was. It has a version, which
tells whether its table was made, and it is brought up to date whenever it is opened. Rows are never
removed; one that is too old is passed over when a fresh one is asked for. The age of a row is a number of 64
bits. A store takes rows with any time, and where the age of one does not fit, the program stops.

## Contents
- `Row`, `checkedSub`, `Row.isFreshAt?`: a name with its age.
- `StoreError`, `Fault`: why the store gives no answer.
- `Database`, `Database.migrate`: a database and how it is brought up to date.
- `Database.upsert`, `get`, `getFresh`, `count`: rows.
- `Database.setVersion`, `dropTable`, `blocked`: what becomes of a database that is tampered with.
- `Site`, `Disk`, `Store.openAt`, `Store.reopen`: where databases are kept.
-/

namespace TeamChat.Directory

/-! ## Rows -/

/-- A name that was found out, and when, in seconds. -/
structure Row where
  name : String
  updatedAt : Int64
deriving DecidableEq, Repr

/-- The seconds for which a name is fresh: seven days. -/
def timeToLive : Int64 := 604800

/-- The difference of two numbers, if it fits into 64 bits. -/
def checkedSub (a b : Int64) : Option Int64 :=
  let difference := a.toInt - b.toInt
  if Int64.minValue.toInt ≤ difference ∧ difference ≤ Int64.maxValue.toInt then some (a - b) else none

/-- Whether a row is no older than its time to live, if its age fits into 64 bits. -/
def Row.isFreshAt? (now : Int64) (r : Row) : Option Bool :=
  (checkedSub now r.updatedAt).map fun age => age ≤ timeToLive

/-! ## Errors -/

/-- Why the store cannot be used. -/
inductive StoreError
  /-- There is no table. -/
  | noTable
  /-- The version is no version. -/
  | badVersion (version : Int)
  /-- Something else is kept under the name of the table. -/
  | nameTaken
  /-- The file is something else. -/
  | notADatabase
  /-- The file cannot be opened. -/
  | cannotOpen (path : String)
  /-- There is no place for the file. -/
  | noPlace
deriving DecidableEq, Repr

/-- An error in words. -/
def StoreError.message : StoreError → String
  | .noTable => "Database error: no such table: users"
  | .badVersion v =>
    "Database error: Integer " ++ String.ofList (Numeral.signed v) ++ " out of range at index 0"
  | .nameTaken => "Migration error: there is already an index named users"
  | .notADatabase => "Database error: file is not a database"
  | .cannotOpen path => "Database error: unable to open database file: " ++ path
  | .noPlace => "IO error: Not a directory (os error 20)"

/-- Why a fresh row is not given out. -/
inductive Fault
  /-- The store cannot be used. -/
  | refused (e : StoreError)
  /-- The age of the row does not fit into 64 bits, and the program stops. -/
  | overflow
deriving DecidableEq, Repr

/-! ## Databases -/

/-- What is kept under the name of the table. -/
inductive Users
  | absent
  | table (rows : Register Row)
  | index
deriving Repr

/-- A database. -/
structure Database where
  version : Int := 0
  users : Users := .absent
deriving Repr

namespace Database

/-- Brings a database up to date: one of version 0 gets a table, unless it has one, and is then of version
1. -/
def migrate (d : Database) : Except StoreError Database :=
  if d.version < 0 then .error (.badVersion d.version)
  else if d.version = 0 then
    match d.users with
    | .absent => .ok ⟨1, .table .empty⟩
    | .table rows => .ok ⟨1, .table rows⟩
    | .index => .error .nameTaken
  else .ok d

/-- The rows of the table. -/
def rows (d : Database) : Except StoreError (Register Row) :=
  match d.users with
  | .table rows => .ok rows
  | _ => .error .noTable

/-- Sets the row of a user. -/
def upsert (user : String) (r : Row) (d : Database) : Except StoreError Database :=
  match d.rows with
  | .ok rows => .ok { d with users := .table (rows.set user r) }
  | .error e => .error e

/-- The row of a user, however old. -/
def get (user : String) (d : Database) : Except StoreError (Option Row) :=
  d.rows.map fun rows => rows.get? user

/-- The row of a user, if it is fresh. -/
def getFresh (now : Int64) (user : String) (d : Database) : Except Fault (Option Row) :=
  match d.get user with
  | .error e => .error (.refused e)
  | .ok none => .ok none
  | .ok (some r) =>
    match r.isFreshAt? now with
    | none => .error .overflow
    | some fresh => .ok (if fresh then some r else none)

/-- The number of rows. -/
def count (d : Database) : Except StoreError Nat :=
  d.rows.map Register.size

/-- Sets the version; one that takes more than 32 bits becomes zero. -/
def setVersion (version : Int) (d : Database) : Database :=
  { d with version := if Int32.minValue.toInt ≤ version ∧ version ≤ Int32.maxValue.toInt then version else 0 }

/-- Removes the table with its rows. -/
def dropTable (d : Database) : Except StoreError Database :=
  d.rows.map fun _ => { d with users := .absent }

/-- A database of version 0 whose name for the table is taken by an index, so that no table can be made. -/
def blocked : Database := ⟨0, .index⟩

end Database

/-! ## Places -/

/-- Where a database is kept. -/
inductive Site
  | memory
  | file (path : String)
  /-- A place that cannot be made. -/
  | unusable
deriving DecidableEq, Repr

/-- What is found at a place. -/
inductive Disk
  | empty
  | directory
  /-- A file that is no database. -/
  | foreign
  | database (d : Database)
deriving Repr

/-- An open database. -/
structure Store where
  site : Site
  database : Database
deriving Repr

namespace Store

/-- Opens what is found at a place. -/
def openAt (site : Site) (disk : Disk) : Except StoreError Store :=
  match site, disk with
  | .unusable, _ => .error .noPlace
  | .memory, _ => (Database.migrate {}).map (⟨.memory, ·⟩)
  | .file path, .directory => .error (.cannotOpen path)
  | .file _, .foreign => .error .notADatabase
  | .file path, .empty => (Database.migrate {}).map (⟨.file path, ·⟩)
  | .file path, .database d => d.migrate.map (⟨.file path, ·⟩)

/-- Changes the database of a store, unless that fails. -/
def update (f : Database → Except StoreError Database) (s : Store) : Except StoreError Store :=
  (f s.database).map fun d => { s with database := d }

/-- What is left at the place of a store that is closed. -/
def close (s : Store) : Disk :=
  match s.site with
  | .file _ => .database s.database
  | _ => .empty

/-- Closes a store and opens it again. -/
def reopen (s : Store) : Except StoreError Store :=
  openAt s.site s.close

/-- The path of the file, if there is one. -/
def path? (s : Store) : Option String :=
  match s.site with
  | .file path => some path
  | _ => none

/-- The database of a store that lasts. -/
def durable? (s : Store) : Option Database :=
  s.path?.map fun _ => s.database

end Store

end TeamChat.Directory
