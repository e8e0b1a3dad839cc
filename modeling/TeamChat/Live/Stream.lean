import TeamChat.Json.Printer
import TeamChat.Wire.Event

/-!
# The stream of live events

The stream waits for whatever comes first: a frame, a tick of the clock, a command, or the end of the
connection. Text frames become events; one that cannot be read, or is of no concern, is passed over. A
tick sends a ping, and the pings are numbered. When the stream ends it says so once, and nothing follows.

## Contents
- `Live.Signal`: what the stream waits for.
- `Live.Effect`: what it does.
- `Live.Stream`, `Live.Stream.start`, `step`, `run`: the stream.
- `Live.pingText`: the text of a ping.
-/

namespace TeamChat.Live

open Wire (Event)

/-! ## What happens around the stream -/

/-- What the stream waits for. -/
inductive Signal
  | text (frame : String)
  /-- A frame that holds no text. -/
  | otherFrame
  /-- The service closes the stream, perhaps with a reason. -/
  | closed (reason : Option String)
  /-- The connection fails. -/
  | failed (reason : String)
  /-- The connection ends without a word. -/
  | ended
  /-- A ping is due; `failure` tells why it cannot be sent. -/
  | tick (failure : Option String)
  | shutdown
  /-- Nobody can command the stream any more. -/
  | commandsDropped
  /-- Nobody takes the events any more. -/
  | receiverDropped
deriving DecidableEq, Repr

/-- What the stream does. -/
inductive Effect
  /-- An event is taken. -/
  | deliver (e : Event)
  | ping (number : Nat)
  /-- The service is told that the stream closes. -/
  | close
deriving DecidableEq, Repr

/-- The event that was taken. -/
def Effect.event? : Effect → Option Event
  | .deliver e => some e
  | _ => none

/-- The number of the ping that was sent. -/
def Effect.ping? : Effect → Option Nat
  | .ping number => some number
  | _ => none

/-- The text of a ping. -/
def pingText (number : Nat) : String :=
  (Json.object [("id", Json.int number), ("type", .str "ping")]).text

/-! ## The stream -/

/-- The state of a stream. -/
structure Stream where
  running : Bool := true
  /-- Whether somebody takes the events. -/
  heard : Bool := true
  /-- How many pings were due. -/
  pings : Nat := 0
deriving DecidableEq, Repr

namespace Stream

/-- An event is taken if somebody is there. -/
def deliver (s : Stream) (e : Event) : List Effect :=
  if s.heard then [.deliver e] else []

/-- The stream ends and says why. -/
def finish (s : Stream) (reason : String) : Stream × List Effect :=
  ({ s with running := false }, s.deliver (.disconnected reason))

/-- The stream closes and says so to both sides. -/
def shutDown (s : Stream) : Stream × List Effect :=
  let (t, effects) := s.finish "shutdown"
  (t, .close :: effects)

/-- The event of a text frame, none if it is passed over. -/
def eventOf? (frame : String) : Option Event :=
  match Event.ofFrame frame with
  | .error _ => none
  | .ok (.other _) => none
  | .ok e => some e

/-- A text frame arrives. An event that nobody takes ends the stream. -/
def receive (s : Stream) (frame : String) : Stream × List Effect :=
  match eventOf? frame with
  | none => (s, [])
  | some e => if s.heard then (s, [.deliver e]) else s.finish "receiver dropped"

/-- The reason that the service gives for closing, or words for none. -/
def closeReason (reason : Option String) : String :=
  (reason.filter fun r => !r.isEmpty).getD "closed by server"

/-- A running stream after a signal, and what it does. -/
def react (s : Stream) : Signal → Stream × List Effect
  | .text frame => s.receive frame
  | .otherFrame => (s, [])
  | .closed reason => s.finish (closeReason reason)
  | .failed reason => s.finish reason
  | .ended => s.finish "stream ended"
  -- a ping that cannot be sent is counted all the same
  | .tick none => ({ s with pings := s.pings + 1 }, [.ping (s.pings + 1)])
  | .tick (some reason) => { s with pings := s.pings + 1 }.finish reason
  | .shutdown => s.shutDown
  | .commandsDropped => s.shutDown
  | .receiverDropped => ({ s with heard := false }, [])

/-- A stream after a signal, and what it does. One that has ended does nothing. -/
def step (s : Stream) (signal : Signal) : Stream × List Effect :=
  if s.running then s.react signal else (s, [])

/-- A stream after signals, and what it does, in order. -/
def run : Stream → List Signal → Stream × List Effect
  | s, [] => (s, [])
  | s, signal :: r =>
    let (t, effects) := s.step signal
    let (u, more) := run t r
    (u, effects ++ more)

/-- A stream that came up, and what it says first. If nobody is there to take that, it ends at once. -/
def start (heard : Bool) : Stream × List Effect :=
  if heard then ({}, [.deliver .connected]) else ({ running := false, heard := false }, [])

/-- What a stream does from the start on. -/
def trace (heard : Bool) (signals : List Signal) : List Effect :=
  (start heard).2 ++ ((start heard).1.run signals).2

/-- The events that are taken. -/
def events (heard : Bool) (signals : List Signal) : List Event :=
  (trace heard signals).filterMap Effect.event?

theorem step_of_not_running {s : Stream} (h : s.running = false) (signal : Signal) :
    s.step signal = (s, []) := by
  simp [step, h]

theorem run_of_not_running {s : Stream} (h : s.running = false) (signals : List Signal) :
    s.run signals = (s, []) := by
  induction signals with
  | nil => rfl
  | cons signal r ih => simp [run, step_of_not_running h, ih]

end Stream

end TeamChat.Live
