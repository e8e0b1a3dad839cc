import TeamChat.Live.Update

/-!
# The dispatcher

The dispatcher takes events one after the other, looks at the selection, and hands the updates on. It goes
on until there are no more events, even if nobody takes the updates any more.

## Contents
- `Live.Dispatcher`: the selection, and whether updates are taken.
- `Live.Dispatcher.step`, `run`: the updates that one input leads to, and several.
-/

namespace TeamChat.Live

/-- What the dispatcher knows. -/
structure Dispatcher where
  selected : Option String := none
  /-- Whether somebody takes the updates. -/
  heard : Bool := true
deriving DecidableEq, Repr

/-- What happens around the dispatcher. -/
inductive Dispatcher.Input
  | event (e : Wire.Event)
  | select (channel : Option String)
  | dropSink
deriving DecidableEq, Repr

/-- The dispatcher after an input, and the updates that are taken. -/
def Dispatcher.step (d : Dispatcher) : Dispatcher.Input → Dispatcher × List Update
  | .event e => (d, if d.heard then (Update.ofEvent? d.selected e).toList else [])
  | .select channel => ({ d with selected := channel }, [])
  | .dropSink => ({ d with heard := false }, [])

/-- The dispatcher after inputs, the first one first, and all updates that are taken. -/
def Dispatcher.run : List Dispatcher.Input → Dispatcher → Dispatcher × List Update
  | [], d => (d, [])
  | i :: rest, d =>
    let (d, updates) := d.step i
    let (d, more) := run rest d
    (d, updates ++ more)

end TeamChat.Live
