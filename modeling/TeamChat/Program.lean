import TeamChat.Report
import TeamChat.Terminal

/-!
# The program

The program signs in, opens the live events if it can, shows the first list of channels, and then reacts to
what is typed and to what happens. It ends when it is told to, when there is nothing more to read, or when
it cannot start.

## Contents
- `Program.Output`, `Program.Input`: what is written, and what the program waits for.
- `Program`: a program that runs, or has ended.
- `Program.launch`, `Program.feed`: the start and the steps.
-/

namespace TeamChat

/-- A program. -/
inductive Program
  | running (service : Service) (view : View)
  | ended (code : Nat)
deriving Repr

namespace Program

/-- What is written to the terminal and to the error output. -/
structure Output where
  out : List String := []
  err : List String := []
deriving DecidableEq, Repr

/-- What the program waits for. -/
inductive Input
  | line (text : String)
  | event (e : Wire.Event)
  /-- There is nothing more to read. -/
  | endOfInput
deriving DecidableEq, Repr

/-! ## Work in the background -/

/-- The outcome of a job; nobody is told whether a mark was accepted. -/
def carryOut (s : Service) : Terminal.Job → Session (Option ClientEvent)
  | .loadChannels => return some (← s.loadChannelsTask)
  | .loadHistory channel => return some (← s.loadHistoryTask channel)
  | .submit channel line => return some (← s.submitTask channel line)
  | .markAsRead channel => do
    s.markAsReadTask channel
    return none

/-- The view after jobs, the lines that their outcomes show, and the jobs that follow. -/
def carryOutAll (s : Service) (v : View) : List Terminal.Job → Session Terminal.Reaction
  | [] => return { view := v }
  | job :: r => do
    match ← carryOut s job with
    | none => carryOutAll s v r
    | some outcome =>
      let here := Terminal.onOutcome v outcome
      let rest ← carryOutAll s here.view r
      return { rest with lines := here.lines ++ rest.lines, jobs := here.jobs ++ rest.jobs }

/-- The view after a reaction and all the work it asks for, and the lines that are shown. A line that was
sent asks for a history, and a history asks for nothing, so two rounds are enough. -/
def complete (s : Service) (r : Terminal.Reaction) : Session (View × List String) := do
  let first ← carryOutAll s r.view r.jobs
  let second ← carryOutAll s first.view first.jobs
  return (second.view, r.lines ++ first.lines ++ second.lines)

/-! ## Running -/

/-- The program after a reaction. -/
def advance (s : Service) (r : Terminal.Reaction) : Session (Program × Output) := do
  let (view, lines) ← complete s r
  return (.running s view, { out := lines })

/-- The program after an input, and what it writes. -/
def feed (p : Program) (i : Input) : Session (Program × Output) :=
  match p, i with
  | .ended code, _ => return (.ended code, {})
  | .running _ _, .endOfInput => return (.ended 0, {})
  | .running s view, .line text =>
    if Terminal.isQuit text then return (.ended 0, {}) else advance s (Terminal.onLine view text)
  | .running s view, .event e =>
    match Live.Update.ofEvent? view.selected e with
    | none => return (.running s view, {})
    | some u => advance s (Terminal.onUpdate view u)

/-! ## Starting -/

/-- A program that cannot start, with the errors that say why, outermost first. -/
def failure (out : List String) (chain : List String) : Program × Output :=
  (.ended 1, ⟨out, [Report.text chain]⟩)

/-- Signs in and shows the first list of channels. -/
def start (settings : Settings) : Session (Program × Output) := do
  match ← Session.connect settings with
  | .error e => return failure [] ("Could not connect to the workspace" :: e.chain)
  | .ok s =>
    let greeting := ["Signed in as " ++ s.username]
    let _ ← s.openEvents
    match ← s.loadChannels with
    | .error .noChannels => return (.ended 0, ⟨greeting, [ClientError.noChannels.message]⟩)
    | .error e => return failure greeting ("Could not load channels" :: e.chain)
    | .ok channels =>
      let (p, output) ← advance s (Terminal.onStart channels)
      return (p, { output with out := greeting ++ output.out })

/-- Starts with what the settings are, or ends because there are none. -/
def launch (settings : Except Settings.Fault Settings) : Session (Program × Output) :=
  match settings with
  | .error f => return failure [] (ClientError.settings f).chain
  | .ok settings => start settings

/-- The notice about the file that is logged to. -/
def logNotice (path : String) : String :=
  "Logging to " ++ path

end Program

end TeamChat
