import TeamChat.Directory
import TeamChat.Limiter
import TeamChat.Thread

/-!
# Sessions

A session works on a world of its own: a clock, the bucket of tokens, the directory of users, the table of
threads, and the trace of what it did to the outside. The service answers from outside. Every call waits
for a token first.

A wait moves the clock and leaves the calendar alone: `World.now` is the time at which an operation began, and
changes between operations only. The program looks at the calendar again after a wait, so where a session waits
for tokens, the time of a row that it writes and the days of a history that it asks for come out earlier here, by
as much as it waited.

## Contents
- `World`, `Session`: the state, and computations on it.
- `Session.acquire`, `Session.call`: tokens and calls.
- `Session.collect`: all parts of a listing.
- `Session.resolve`, `Session.nameOf`: names of users.
-/

namespace TeamChat

open Remote (Call Step Page ApiError)

/-- What a session works on. The clock counts nanoseconds and moves while the session waits; `now` is the
time of the calendar in seconds. -/
structure World where
  clock : Nat := 0
  now : Int
  rate : Limiter.Rate
  bucket : Limiter.Bucket
  directory : Directory := {}
  threads : Thread.Table := {}
  /-- What was done to the outside, oldest first. -/
  trace : List Step := []

/-- A computation that may use the service and change the world. -/
abbrev Session (α : Type) := ReaderT Remote (StateM World) α

namespace World

/-- The world of a session that begins. -/
def start (rate : Limiter.Rate) (now : Int) (clock : Nat) (directory : Directory) : World where
  clock := clock
  now := now
  rate := rate
  bucket := .full rate clock
  directory := directory

/-- The world of a session that begins anew over the same store. -/
def restart (w : World) : World :=
  start w.rate w.now w.clock w.directory.reopen

/-- The time of the calendar as it is stored. -/
def stamp (w : World) : Int64 := Int64.ofInt w.now

/-- The world in which one more thing was done. -/
def record (s : Step) (w : World) : World :=
  { w with trace := w.trace ++ [s] }

/-- The world in which a token was taken: at once, or after a sleep. -/
def acquire (w : World) : World :=
  let b := w.bucket.refill w.rate w.clock
  if b.isEmpty then
    let clock := w.clock + w.rate.sleep
    { w with clock := clock, bucket := (Limiter.Bucket.resume clock).take }
  else { w with bucket := b.take }

end World

namespace Session

/-! ## Calls -/

/-- Takes a token. -/
def acquire : Session Unit :=
  modify fun w => (w.acquire).record .acquire

/-- The answer to a call, given what was done before. -/
def send (c : Call) : Session (Except ApiError c.Reply) := fun remote => do
  let w ← get
  set (w.record (.call c))
  return remote.answer w.trace c

/-- Takes a token and makes a call. -/
def call (c : Call) : Session (Except ApiError c.Reply) := do
  acquire
  send c

/-! ## Listings -/

/-- What stands for the part of a listing that never comes. -/
def endless : ApiError :=
  .http (.transport "" [])

/-- The items of a part and of all parts behind it. A failure of any part is the failure of all. `fuel` is
the number of parts that are waited for. -/
def collectFrom {α : Type} (fetch : String → Session (Except ApiError (Page α))) :
    Nat → String → Session (Except ApiError (List α))
  | 0, _ => return .error endless
  | fuel + 1, cursor => do
    match ← fetch cursor with
    | .error e => return .error e
    | .ok page =>
      if page.isLast then return .ok page.items
      else
        match ← collectFrom fetch fuel page.next with
        | .error e => return .error e
        | .ok items => return .ok (page.items ++ items)

/-- The items of a listing. -/
def collect {α : Type} (fetch : String → Session (Except ApiError (Page α))) :
    Session (Except ApiError (List α)) := fun remote =>
  collectFrom fetch remote.horizon "" remote

/-! ## Names -/

/-- A name that is known already. -/
def lookUp (user : String) : Session (Option String) := do
  let w ← get
  let (name, directory) := w.directory.find w.stamp user
  set { w with directory := directory }
  return name

/-- Remembers what the service answered about a user. -/
def settle (user : String) (answer : Except ApiError Wire.User) :
    Session (Except Directory.Unresolved String) := do
  let w ← get
  let (result, directory) := w.directory.settle w.stamp user answer
  set { w with directory := directory }
  return result

/-- The name of a user. The service is asked unless the name is known. -/
def resolve (user : String) : Session (Except Directory.Unresolved String) := do
  match ← lookUp user with
  | some name => return .ok name
  | none => settle user (← call (.userInfo user))

/-- The name of a user, or else the placeholder. -/
def nameOf (user : String) : Session String := do
  return Directory.nameOf (← resolve user)

/-- Remembers a name. -/
def prime (user name : String) : Session Unit :=
  modify fun w => { w with directory := w.directory.prime user name }

end Session

end TeamChat
