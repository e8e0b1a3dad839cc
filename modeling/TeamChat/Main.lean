import Std.Time.DateTime.Timestamp
import TeamChat.Program
import TeamChat.Remote.Http

/-!
# The command line

The outermost layer: variables and typed lines come in, lines and the exit code go out. There is no network
here, so the program reports that the service cannot be reached.

## Contents
- `main`: the program.
-/

namespace TeamChat.CommandLine

/-- A variable. -/
def lookUp (given : List (String × Option String)) (name : String) : Option String :=
  (given.lookup name).join

/-- The directory for files of the application. -/
def cacheDirectory : IO (Option String) := do
  let base := (← IO.getEnv "XDG_CACHE_HOME").filter fun p => p.startsWith "/"
  let home := (← IO.getEnv "HOME").map fun h => h ++ "/.cache"
  return (base <|> home).map fun b => b ++ "/slack-term"

/-- The file to log to, if one is wanted and can be written. -/
def logFile : IO (Option String) := do
  if (← IO.getEnv "SLACK_TERM_LOG").isNone then return none
  match ← cacheDirectory with
  | none => return none
  | some directory =>
    try
      IO.FS.createDirAll directory
      let path := directory ++ "/slack-term.log"
      let _ ← IO.FS.Handle.mk path .append
      return some path
    catch _ => return none

/-- Writes what the program wrote. -/
def write (o : Program.Output) : IO Unit := do
  for line in o.out do IO.println line
  for line in o.err do IO.eprintln line
  (← IO.getStdout).flush

/-- Feeds lines to a program until it ends. -/
partial def loop (remote : Remote) (world : World) : Program → IO UInt32
  | .ended code => return UInt32.ofNat code
  | p => do
    let line ← (← IO.getStdin).getLine
    let input := if line.isEmpty then Program.Input.endOfInput else .line line
    let ((next, output), world) := (p.feed input) remote world
    write output
    loop remote world next

end TeamChat.CommandLine

open TeamChat TeamChat.CommandLine in
/-- Runs the program. -/
def main : IO UInt32 := do
  if let some path ← logFile then IO.eprintln (Program.logNotice path)
  let given ← Settings.names.mapM fun name => do return (name, ← IO.getEnv name)
  let read := Settings.ofLookup (lookUp given)
  let settings := read.toOption.getD {}
  let client := Remote.Client.make settings.token settings.apiUrl settings.cookie
  let now ← Std.Time.Timestamp.now
  let world := World.start (settings.rate .exact) now.toSecondsSinceUnixEpoch.val 0 {}
  let remote := client.remote .unreachable 100000
  let ((p, output), world) := Program.launch read remote world
  write output
  loop remote world p
