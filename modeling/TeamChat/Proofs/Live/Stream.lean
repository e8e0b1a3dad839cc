import TeamChat.Live.Stream

/-!
# `Live.Stream`: what the stream says

The stream takes its signals in any order, and what it says can be read off the list of them. Somebody who stays
hears `connected`, then the events of the text frames up to the first signal at which the stream ends, then one
`disconnected` with the reason, and nothing more (`events_of_stayed`). Somebody who goes away hears the beginning of
the same. What a frame holds ends nothing: the stream ends at a text frame only if nobody is there to take its event
(`step_text`).

## Contents
- `Signal.frame?`, `Signal.reason?`, `Stream.consumed`, `Stream.ending?`: what there is to be read off the signals.
- `Wire.Event.ofFrame_ne`, `eventOf?_eq_some_iff`: the events that frames hold.
- `Stream.Reaction`, `Stream.reaction_react`: all that one signal can do to a stream that is heard.
- `Stream.trace_of_signals`: the events, the pings and the end.
-/

namespace TeamChat

open Wire (Event)

/-! ## The events of frames -/

/-- No value says that the stream came up or went away. -/
theorem Wire.Event.ofJson_ne {v : Json} {e : Event} (h : Event.ofJson v = .ok e) :
    e ≠ .connected ∧ ∀ reason, e ≠ .disconnected reason := by
  unfold Event.ofJson at h
  simp only at h
  -- one case for each kind of event that is read, and no branch makes either of the two
  split at h
  · cases h
    simp
  · split at h
    · cases h
      simp
    · split at h
      · cases hd : Wire.MessageEvent.decode v with
        | error m =>
            rw [hd] at h
            cases h
        | ok body =>
            rw [hd] at h
            cases h
            simp
      · split at h
        · split at h
          · cases h
          · cases h
            simp
        · split at h
          · split at h
            · cases h
              simp
            · next body _ =>
                cases hd : Wire.ErrorNotice.codec.decode body with
                | error m =>
                    rw [hd] at h
                    cases h
                | ok notice =>
                    rw [hd] at h
                    cases h
                    simp
          · cases h
            simp

/-- **No frame says that the stream came up or went away.** -/
theorem Wire.Event.ofFrame_ne {frame : String} {e : Event} (h : Event.ofFrame frame = .ok e) :
    e ≠ .connected ∧ ∀ reason, e ≠ .disconnected reason := by
  unfold Event.ofFrame at h
  split at h
  · cases h
  · exact Event.ofJson_ne h

namespace Live

/-! ## What there is to be read off the signals -/

namespace Signal

/-- The text of a text frame. -/
def frame? : Signal → Option String
  | .text frame => some frame
  | _ => none

/-- The reason with which the stream ends at a signal, `none` if it goes on. -/
def reason? : Signal → Option String
  | .closed reason => some (Stream.closeReason reason)
  | .failed reason => some reason
  | .ended => some "stream ended"
  | .tick failure => failure
  | .shutdown => some "shutdown"
  | .commandsDropped => some "shutdown"
  | .text _ => none
  | .otherFrame => none
  | .receiverDropped => none

end Signal

namespace Stream

/-- The signals before the first one at which the stream ends. -/
def consumed (signals : List Signal) : List Signal :=
  signals.takeWhile fun signal => signal.reason?.isNone

/-- The reason with which the stream ends. -/
def ending? (signals : List Signal) : Option String :=
  signals.findSome? Signal.reason?

/-- The events of the text frames, in the order in which they arrive. -/
def eventsOf (signals : List Signal) : List Event :=
  (signals.filterMap Signal.frame?).filterMap eventOf?

/-- The signals without those that nobody takes the events any more. -/
def stayed (signals : List Signal) : List Signal :=
  signals.filter fun signal => signal ≠ .receiverDropped

/-- The events that are taken because of some effects. -/
def taken (effects : List Effect) : List Event :=
  effects.filterMap Effect.event?

/-- The numbers of the pings among some effects. -/
def pingsOf (effects : List Effect) : List Nat :=
  effects.filterMap Effect.ping?

variable {s : Stream} {signal : Signal} {signals : List Signal}

/-- A frame that can be read and is of any concern holds its event. -/
theorem eventOf?_eq_some_iff {frame : String} {e : Event} :
    eventOf? frame = some e ↔ Event.ofFrame frame = .ok e ∧ ∀ kind, e ≠ .other kind := by
  unfold eventOf?
  cases Event.ofFrame frame with
  | error m => simp
  | ok e' =>
      cases e' with
      | other kind =>
          constructor
          · intro h
            cases h
          · rintro ⟨h, hne⟩
            cases h
            exact absurd rfl (hne kind)
      | _ =>
          constructor
          · intro h
            cases h
            exact ⟨rfl, by simp⟩
          · rintro ⟨h, _⟩
            cases h
            rfl

/-! ## One signal -/

/-- A text frame ends the stream only if it holds an event that nobody takes. -/
theorem step_text (hr : s.running = true) (frame : String) :
    (s.step (.text frame)).1.running = false ↔ s.heard = false ∧ (eventOf? frame).isSome = true := by
  unfold step
  rw [if_pos hr]
  show (s.receive frame).1.running = false ↔ _
  unfold receive
  cases eventOf? frame with
  | none => simp [hr]
  | some e =>
      cases hh : s.heard with
      | true => simp [hr]
      | false => simp [finish]

/-- **All that a signal can do to a stream while somebody takes its events.** The stream goes on, and the event of a
    text frame is taken; or it ends, and says why; or whoever took the events goes away. -/
inductive Reaction (s : Stream) : Signal → Stream × List Effect → Prop
  | goesOn {signal t effects} (goes : signal.reason? = none) (stays : signal ≠ .receiverDropped)
      (running : t.running = true) (heard : t.heard = true)
      (events : taken effects = (signal.frame?.bind eventOf?).toList) : Reaction s signal (t, effects)
  | ends {signal t effects} (reason : String) (ends : signal.reason? = some reason)
      (running : t.running = false) (heard : t.heard = true) (events : taken effects = [.disconnected reason]) :
      Reaction s signal (t, effects)
  | left : Reaction s .receiverDropped ({ s with heard := false }, [])

theorem taken_deliver (hh : s.heard = true) (e : Event) : taken (s.deliver e) = [e] := by
  unfold deliver
  rw [if_pos hh]
  rfl

theorem reaction_finish {reason : String} (hh : s.heard = true) (h : signal.reason? = some reason) :
    Reaction s signal (s.finish reason) :=
  .ends reason h rfl hh (taken_deliver hh _)

theorem reaction_shutDown (hh : s.heard = true) (h : signal.reason? = some "shutdown") :
    Reaction s signal s.shutDown :=
  .ends "shutdown" h rfl hh (taken_deliver hh _)

theorem reaction_receive (hr : s.running = true) (hh : s.heard = true) (frame : String) :
    Reaction s (.text frame) (s.receive frame) := by
  unfold receive
  cases he : eventOf? frame with
  | none =>
      refine .goesOn rfl (by simp) hr hh ?_
      simp [taken, Signal.frame?, he]
  | some e =>
      simp only [if_pos hh]
      refine .goesOn rfl (by simp) hr hh ?_
      simp [taken, Signal.frame?, he, Effect.event?]

theorem reaction_react (hr : s.running = true) (hh : s.heard = true) (signal : Signal) :
    Reaction s signal (s.react signal) := by
  cases signal with
  | text frame => exact reaction_receive hr hh frame
  | otherFrame => exact .goesOn rfl (by simp) hr hh rfl
  | closed reason => exact reaction_finish hh rfl
  | failed reason => exact reaction_finish hh rfl
  | ended => exact reaction_finish hh rfl
  | tick failure =>
      cases failure with
      | none => exact .goesOn rfl (by simp) hr hh rfl
      | some reason =>
          have counted : taken (deliver { s with pings := s.pings + 1 } (.disconnected reason)) = [_] :=
            taken_deliver hh _
          exact .ends reason rfl rfl hh counted
  | shutdown => exact reaction_shutDown hh rfl
  | commandsDropped => exact reaction_shutDown hh rfl
  | receiverDropped => exact .left

/-- Nobody is told anything once nobody is there, and nobody comes back. -/
theorem react_of_not_heard (hh : s.heard = false) (signal : Signal) :
    (s.react signal).1.heard = false ∧ taken (s.react signal).2 = [] := by
  have silent (t : Stream) (ht : t.heard = false) (e : Event) : t.deliver e = [] := by
    unfold deliver
    rw [ht]
    rfl
  cases signal with
  | text frame =>
      show (s.receive frame).1.heard = false ∧ taken (s.receive frame).2 = []
      unfold receive
      cases eventOf? frame with
      | none => exact ⟨hh, rfl⟩
      | some e => simp [hh, finish, silent, taken]
  | otherFrame => exact ⟨hh, rfl⟩
  | closed reason => exact ⟨hh, congrArg taken (silent s hh _)⟩
  | failed reason => exact ⟨hh, congrArg taken (silent s hh _)⟩
  | ended => exact ⟨hh, congrArg taken (silent s hh _)⟩
  | tick failure =>
      cases failure with
      | none => exact ⟨hh, rfl⟩
      | some reason => exact ⟨hh, congrArg taken (silent { s with pings := s.pings + 1 } hh _)⟩
  | shutdown => exact ⟨hh, congrArg taken (silent s hh _)⟩
  | commandsDropped => exact ⟨hh, congrArg taken (silent s hh _)⟩
  | receiverDropped => exact ⟨rfl, rfl⟩

/-- Whatever is delivered is no ping. -/
theorem pingsOf_deliver (e : Event) : pingsOf (s.deliver e) = [] := by
  unfold deliver
  split
  · rfl
  · rfl

/-- A tick sends the next ping, unless the ping cannot be sent; then the stream ends. No other signal sends one. -/
theorem pings_react (s : Stream) (signal : Signal) :
    pingsOf (s.react signal).2 = List.range' (s.pings + 1) ([signal].count (.tick none)) ∧
    ((s.react signal).1.running = true → (s.react signal).1.pings = s.pings + [signal].count (.tick none)) := by
  cases signal with
  | text frame =>
      show pingsOf (s.receive frame).2 = [] ∧ (_ → (s.receive frame).1.pings = s.pings)
      unfold receive
      cases eventOf? frame with
      | none => exact ⟨rfl, fun _ => rfl⟩
      | some e =>
          simp only
          split
          · exact ⟨rfl, fun _ => rfl⟩
          · exact ⟨pingsOf_deliver _, fun _ => rfl⟩
  | otherFrame => exact ⟨rfl, fun _ => rfl⟩
  | closed reason => exact ⟨pingsOf_deliver _, fun _ => rfl⟩
  | failed reason => exact ⟨pingsOf_deliver _, fun _ => rfl⟩
  | ended => exact ⟨pingsOf_deliver _, fun _ => rfl⟩
  | tick failure =>
      cases failure with
      | none => exact ⟨rfl, fun _ => rfl⟩
      | some reason =>
          refine ⟨?_, fun h => nomatch h⟩
          simp only [react, finish, pingsOf_deliver]
          simp
  | shutdown => exact ⟨pingsOf_deliver _, fun _ => rfl⟩
  | commandsDropped => exact ⟨pingsOf_deliver _, fun _ => rfl⟩
  | receiverDropped => exact ⟨rfl, fun _ => rfl⟩

/-! ## Runs -/

theorem run_cons_of_running (hr : s.running = true) (signal : Signal) (rest : List Signal) :
    (s.run (signal :: rest)).2 = (s.react signal).2 ++ ((s.react signal).1.run rest).2 := by
  simp only [run, step, if_pos hr]

theorem taken_append (effects more : List Effect) : taken (effects ++ more) = taken effects ++ taken more :=
  List.filterMap_append ..

theorem pingsOf_append (effects more : List Effect) :
    pingsOf (effects ++ more) = pingsOf effects ++ pingsOf more :=
  List.filterMap_append ..

theorem consumed_cons_of_none (h : signal.reason? = none) (rest : List Signal) :
    consumed (signal :: rest) = signal :: consumed rest := by
  simp [consumed, h]

theorem consumed_cons_of_some {reason : String} (h : signal.reason? = some reason) (rest : List Signal) :
    consumed (signal :: rest) = [] := by
  simp [consumed, h]

theorem eventsOf_cons (signal : Signal) (rest : List Signal) :
    eventsOf (signal :: rest) = (signal.frame?.bind eventOf?).toList ++ eventsOf rest := by
  unfold eventsOf
  cases hf : signal.frame? with
  | none => simp [hf]
  | some frame =>
      cases he : eventOf? frame with
      | none => simp [hf, he]
      | some e => simp [hf, he]

/-- What somebody hears who stays, from any point on. -/
theorem taken_run_of_stayed (hr : s.running = true) (hh : s.heard = true) (h : .receiverDropped ∉ signals) :
    taken (s.run signals).2 =
      eventsOf (consumed signals) ++ ((ending? signals).map Event.disconnected).toList := by
  induction signals generalizing s with
  | nil => rfl
  | cons signal rest ih =>
      rw [List.mem_cons, not_or] at h
      rw [run_cons_of_running hr, taken_append]
      have reaction := reaction_react hr hh signal
      cases hreact : s.react signal with
      | mk t effects =>
          rw [hreact] at reaction
          cases reaction with
          | goesOn goes _ running heard events =>
              rw [consumed_cons_of_none goes, eventsOf_cons, List.append_assoc, ih running heard h.2, events]
              simp [ending?, goes]
          | ends reason ends running _ events =>
              rw [consumed_cons_of_some ends, run_of_not_running running, events]
              simp [ending?, ends, eventsOf, taken]
          | left => exact absurd rfl h.1

/-- Somebody who is not there hears nothing. -/
theorem taken_run_of_not_heard (hh : s.heard = false) (signals : List Signal) :
    taken (s.run signals).2 = [] := by
  induction signals generalizing s with
  | nil => rfl
  | cons signal rest ih =>
      cases hr : s.running with
      | false =>
          rw [run_of_not_running hr]
          rfl
      | true =>
          obtain ⟨hh', events⟩ := react_of_not_heard hh signal
          rw [run_cons_of_running hr, taken_append, events, ih hh']
          rfl

/-- Somebody who goes away hears the beginning of what there would have been to hear. -/
theorem taken_run_isPrefix (hr : s.running = true) (hh : s.heard = true) (signals : List Signal) :
    taken (s.run signals).2 <+: taken (s.run (stayed signals)).2 := by
  induction signals generalizing s with
  | nil => exact List.prefix_refl _
  | cons signal rest ih =>
      have reaction := reaction_react hr hh signal
      by_cases hleft : signal = .receiverDropped
      · subst hleft
        rw [run_cons_of_running hr, taken_append]
        have silent : taken ((s.react .receiverDropped).1.run rest).2 = [] :=
          taken_run_of_not_heard rfl rest
        rw [silent]
        exact List.nil_prefix
      · -- the same signal comes first in both, so what follows it is to be compared
        have kept : stayed (signal :: rest) = signal :: stayed rest := by
          simp [stayed, hleft]
        rw [kept, run_cons_of_running hr, run_cons_of_running hr, taken_append, taken_append,
          List.prefix_append_right_inj]
        cases hreact : s.react signal with
        | mk t effects =>
            rw [hreact] at reaction
            cases reaction with
            | goesOn _ _ running heard _ => exact ih running heard
            | ends _ _ running _ _ =>
                have same : taken (t.run rest).2 = taken (t.run (stayed rest)).2 := by
                  rw [run_of_not_running running, run_of_not_running running]
                exact same ▸ List.prefix_refl _
            | left => exact absurd rfl hleft

/-- The pings are numbered without a gap, from any point on. -/
theorem pings_run (s : Stream) (signals : List Signal) :
    ∃ n, pingsOf (s.run signals).2 = List.range' (s.pings + 1) n := by
  induction signals generalizing s with
  | nil => exact ⟨0, rfl⟩
  | cons signal rest ih =>
      cases hr : s.running with
      | false =>
          rw [run_of_not_running hr]
          exact ⟨0, rfl⟩
      | true =>
          obtain ⟨numbers, next⟩ := pings_react s signal
          rw [run_cons_of_running hr, pingsOf_append, numbers]
          cases hr' : (s.react signal).1.running with
          | false =>
              -- the stream has ended, so the pings of this signal are the last ones
              rw [run_of_not_running hr']
              exact ⟨_, List.append_nil _⟩
          | true =>
              obtain ⟨n, hn⟩ := ih (s.react signal).1
              rw [next hr'] at hn
              refine ⟨[signal].count (.tick none) + n, ?_⟩
              rw [hn, Nat.add_right_comm, List.range'_append_1]

/-- Somebody stays, so there is one ping for every tick up to the end that could send one. -/
theorem pings_run_of_stayed (hr : s.running = true) (hh : s.heard = true) (h : .receiverDropped ∉ signals) :
    pingsOf (s.run signals).2 = List.range' (s.pings + 1) ((consumed signals).count (.tick none)) := by
  induction signals generalizing s with
  | nil => rfl
  | cons signal rest ih =>
      rw [List.mem_cons, not_or] at h
      obtain ⟨numbers, next⟩ := pings_react s signal
      rw [run_cons_of_running hr, pingsOf_append, numbers]
      have reaction := reaction_react hr hh signal
      cases hreact : s.react signal with
      | mk t effects =>
          rw [hreact] at reaction next
          cases reaction with
          | goesOn goes _ running heard _ =>
              rw [ih running heard h.2, next running, consumed_cons_of_none goes, Nat.add_right_comm,
                List.range'_append_1, ← List.count_append, List.singleton_append]
          | ends reason ends running _ _ =>
              have no_tick : [signal].count (.tick none) = 0 := by
                rw [List.count_eq_zero, List.mem_singleton]
                rintro rfl
                cases ends
              rw [consumed_cons_of_some ends, run_of_not_running running, no_tick]
              rfl
          | left => exact absurd rfl h.1

/-! ## From the start on -/

theorem events_of_stayed (h : .receiverDropped ∉ signals) :
    events true signals =
      .connected :: eventsOf (consumed signals) ++ ((ending? signals).map Event.disconnected).toList := by
  have rest := taken_run_of_stayed (s := {}) rfl rfl h
  show taken ([.deliver .connected] ++ (run {} signals).2) = _
  rw [taken_append, rest]
  rfl

theorem events_isPrefix (heard : Bool) (signals : List Signal) :
    events heard signals <+: events true (stayed signals) := by
  cases heard with
  | true =>
      show taken ([.deliver .connected] ++ (run {} signals).2) <+:
        taken ([.deliver .connected] ++ (run {} (stayed signals)).2)
      rw [taken_append, taken_append, List.prefix_append_right_inj]
      exact taken_run_isPrefix rfl rfl signals
  | false =>
      have silent : events false signals = [] := taken_run_of_not_heard rfl signals
      rw [silent]
      exact List.nil_prefix

theorem pings_trace (heard : Bool) (signals : List Signal) :
    ∃ n, pingsOf (trace heard signals) = List.range' 1 n := by
  cases heard with
  | true => exact pings_run {} signals
  | false => exact pings_run { running := false, heard := false } signals

/-- Frames of all sorts, ticks in between, and a frame behind the end. -/
def visit : List Signal := [
  .text "\x7b\"type\":\"hello\"\x7d", .text "no event", .tick none, .otherFrame,
  .text "\x7b\"type\":\"user_typing\"\x7d", .tick none,
  .text "\x7b\"type\":\"presence_change\",\"user\":\"U2\",\"presence\":\"away\"\x7d", .closed (some ""),
  .text "\x7b\"type\":\"hello\"\x7d"]

end Stream

end Live

end TeamChat
