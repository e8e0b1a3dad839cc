import TeamChat.Live.Dispatcher
import TeamChat.Proofs.Live.Stream
import TeamChat.Proofs.View.Reachable

/-!
# `Live.Line`: from the stream to the view

What the stream says goes to the dispatcher, the updates that the dispatcher decides on go to the view, and both
wait in line until they are taken. In between the view is operated as usual, and the dispatcher sees whatever
selection there is when it looks. Through all of this the view holds live events to be up exactly from the update of
`connected` until the update of `disconnected` (`live_iff`): the stream says each of these once at most and in this
order, no frame says either, the dispatcher passes both on whatever is selected, and nothing else touches the flag.

## Contents
- `Wire.Event.mark?`: which events are about the connection, and what they lead to.
- `View.live_perform`: only an update about the connection touches the flag.
- `Line`, `Line.Move`, `Line.run`: the stream, the dispatcher and the view, with what waits between them.
- `Line.told`, `Line.delivered`, `updates_run`: what the dispatcher by itself hands on reaches the view.
- `Line.Sound`, `Line.sound_run`: what every run preserves.
- `Line.live_iff`: when live events are held to be up.
-/

namespace TeamChat

open Wire (Event)

/-! ## Events about the connection -/

/-- Whether an event says that live events came up (`true`) or went away (`false`). -/
def Wire.Event.mark? : Event → Option Bool
  | .connected => some true
  | .disconnected _ => some false
  | _ => none

/-- The view after the update of an event holds live events to be what the event says, if it says anything. -/
theorem Live.live_apply {seen : Option String} {e : Event} {u : Live.Update} (v : View)
    (h : Live.Update.ofEvent? seen e = some u) : (v.apply u).live = e.mark?.getD v.live := by
  cases e with
  | connected =>
      cases h
      rfl
  | disconnected reason =>
      cases h
      rfl
  | message body =>
      -- there is no update, a notice, or a reload, and neither of these says anything about the connection
      simp only [Live.Update.ofEvent?] at h
      split at h
      · cases h
      · split at h
        · cases h
          rfl
        · split at h
          · cases h
            rfl
          · cases h
  | presence user value =>
      cases h
      rfl
  | hello =>
      cases h
      rfl
  | goodbye =>
      cases h
      rfl
  | error notice =>
      cases h
      rfl
  | other kind => cases h

/-- An event about the connection leads to an update, whatever is selected. -/
theorem Live.mark?_of_no_update {seen : Option String} {e : Event} (h : Live.Update.ofEvent? seen e = none) :
    e.mark? = none := by
  cases e with
  | connected => cases h
  | disconnected reason => cases h
  | _ => rfl

/-! ## The flag of the view -/

namespace View

variable {v : View}

/-- Only an update about the connection touches the flag. -/
theorem live_perform {op : Operation} (h : ∀ live status, op ≠ .apply (.connection live status)) :
    (v.perform op).live = v.live := by
  have silent : op.live? = none := by
    cases op with
    | apply u =>
        cases u with
        | connection live status => exact absurd rfl (h live status)
        | _ => rfl
    | _ => rfl
  rw [(connection_perform op).1, silent]
  rfl

end View

namespace Live

/-! ## The line -/

/-- An update on its way, with the event it was decided on for. -/
structure Notice where
  event : Event
  update : Update
deriving DecidableEq, Repr

/-- The stream, the dispatcher and the view, and what waits between them, oldest first. -/
structure Line where
  stream : Stream
  /-- Events that the dispatcher has not taken yet. -/
  events : List Event
  /-- Updates that have not been applied yet. -/
  updates : List Notice := []
  view : View := {}
  /-- The events whose updates have been applied. -/
  applied : List Event := []

namespace Line

/-- What happens on the line. -/
inductive Move
  | signal (signal : Signal)
  /-- The dispatcher takes the next event, having seen this selection. -/
  | dispatch (seen : Option String)
  /-- The next update is applied. -/
  | deliver
  | operate (op : View.Operation)

/-- The dispatcher takes an event and hands its update on, if there is one. -/
def dispatch (s : Line) (seen : Option String) : Line :=
  match s.events with
  | [] => s
  | e :: rest =>
    { s with
      events := rest
      updates := s.updates ++ ((Update.ofEvent? seen e).map fun u => ⟨e, u⟩).toList }

def deliver (s : Line) : Line :=
  match s.updates with
  | [] => s
  | n :: rest =>
    { s with updates := rest, view := s.view.apply n.update, applied := s.applied ++ [n.event] }

def apply (s : Line) : Move → Line
  | .signal signal =>
    { s with
      stream := (s.stream.step signal).1
      events := s.events ++ Stream.taken (s.stream.step signal).2 }
  | .dispatch seen => s.dispatch seen
  | .deliver => s.deliver
  | .operate op => { s with view := s.view.perform op }

/-- A line behind a stream that has come up. -/
def opening : Line where
  stream := (Stream.start true).1
  events := Stream.taken (Stream.start true).2

/-- The line after some moves. -/
def run (s : Line) (moves : List Move) : Line :=
  moves.foldl apply s

/-! ## The dispatcher by itself -/

/-- What the dispatcher hands on for the first inputs comes before what it hands on for the others. -/
theorem updates_run_append (inputs more : List Dispatcher.Input) (d : Dispatcher) :
    (d.run (inputs ++ more)).2 = (d.run inputs).2 ++ ((d.run inputs).1.run more).2 := by
  induction inputs generalizing d with
  | nil => rfl
  | cons i rest ih =>
      show (d.step i).2 ++ ((d.step i).1.run (rest ++ more)).2 = _
      rw [ih, ← List.append_assoc]
      rfl

/-- What the dispatcher is told in a move: which selection it sees, and an event if one waits. -/
def told (s : Line) : Move → List Dispatcher.Input
  | .dispatch seen => .select seen :: s.events.head?.toList.map .event
  | _ => []

/-- The update that is applied in a move. -/
def delivered (s : Line) : Move → List Update
  | .deliver => s.updates.head?.toList.map (·.update)
  | _ => []

/-- What the moves of a run yield, one after the other. -/
def yields {α : Type} (f : Line → Move → List α) : Line → List Move → List α
  | _, [] => []
  | s, m :: rest => f s m ++ yields f (s.apply m) rest

/-- The updates that wait. -/
def waiting (s : Line) : List Update :=
  s.updates.map (·.update)

/-- **One move**: what is applied is taken from the front of what waits, and what the dispatcher by itself hands on
    is put behind it. -/
theorem updates_apply (s : Line) (m : Move) {d : Dispatcher} (hd : d.heard = true) :
    delivered s m ++ (s.apply m).waiting = s.waiting ++ (d.run (told s m)).2 ∧
      (d.run (told s m)).1.heard = true := by
  cases m with
  | signal signal => exact ⟨(List.append_nil _).symm, hd⟩
  | operate op => exact ⟨(List.append_nil _).symm, hd⟩
  | deliver =>
      refine ⟨?_, hd⟩
      show _ ++ s.deliver.waiting = s.waiting ++ []
      unfold delivered deliver waiting
      cases hu : s.updates with
      | nil => simp [hu]
      | cons n rest => simp
  | dispatch seen =>
      show [] ++ (s.dispatch seen).waiting = _ ∧ _
      unfold told dispatch waiting
      cases s.events with
      | nil => exact ⟨(List.append_nil _).symm, hd⟩
      | cons e rest =>
          refine ⟨?_, hd⟩
          simp only [Dispatcher.run, Dispatcher.step, List.head?_cons, Option.toList_some, List.map_cons,
            List.map_nil, List.nil_append, List.append_nil, hd, if_true, List.map_append]
          cases Update.ofEvent? seen e <;> rfl

/-- **Every run**: the updates that were applied and those that wait are, in order, what the dispatcher by itself
    hands on for the events that it took, under the selections that it saw. -/
theorem updates_run (s : Line) (moves : List Move) {d : Dispatcher} (hd : d.heard = true) :
    yields delivered s moves ++ (s.run moves).waiting = s.waiting ++ (d.run (yields told s moves)).2 := by
  induction moves generalizing s d with
  | nil => exact (List.append_nil _).symm
  | cons m rest ih =>
      obtain ⟨hfirst, hheard⟩ := updates_apply s m hd
      have hrest := ih (s.apply m) hheard
      show (delivered s m ++ yields delivered (s.apply m) rest) ++ ((s.apply m).run rest).waiting = _
      rw [List.append_assoc, hrest, ← List.append_assoc, hfirst, List.append_assoc]
      exact congrArg (s.waiting ++ ·) (updates_run_append _ _ d).symm

/-! ## What every run preserves -/

/-- What some events say about the connection, in order. -/
def marks (events : List Event) : List Bool :=
  events.filterMap Event.mark?

theorem marks_append (events more : List Event) : marks (events ++ more) = marks events ++ marks more :=
  List.filterMap_append ..

/-- What a stream has said about the connection so far. -/
def said (s : Stream) : List Bool :=
  if s.heard = true ∧ s.running = false then [true, false] else [true]

/-- All events that have come out of the stream. -/
def all (s : Line) : List Event :=
  s.applied ++ s.updates.map (·.event) ++ s.events

/-- The flag is what was applied last about the connection; every update is the one of its event; and no word of the
    stream about the connection is lost or out of its place. -/
structure Sound (s : Line) : Prop where
  flag : s.view.live = (marks s.applied).getLast?.getD false
  notices : ∀ n ∈ s.updates, ∃ seen, Update.ofEvent? seen n.event = some n.update
  marked : marks s.all = said s.stream

variable {s : Line}

/-- Nothing that a frame holds is about the connection. -/
theorem mark?_of_frame {frame : String} {e : Event} (h : Event.ofFrame frame = .ok e) : e.mark? = none := by
  obtain ⟨hc, hd⟩ := Event.ofFrame_ne h
  cases e with
  | connected => exact absurd rfl hc
  | disconnected reason => exact absurd rfl (hd reason)
  | _ => rfl

theorem marks_of_frame (signal : Signal) : marks (signal.frame?.bind Stream.eventOf?).toList = [] := by
  cases he : signal.frame?.bind Stream.eventOf? with
  | none => rfl
  | some e =>
      obtain ⟨frame, _, hf⟩ := Option.bind_eq_some_iff.mp he
      simp [marks, mark?_of_frame (Stream.eventOf?_eq_some_iff.mp hf).1]

/-- **One signal** adds to what the stream has said what it makes the stream say. -/
theorem said_step (s : Stream) (signal : Signal) :
    said (s.step signal).1 = said s ++ marks (Stream.taken (s.step signal).2) := by
  cases hr : s.running with
  | false =>
      rw [Stream.step_of_not_running hr]
      exact (List.append_nil _).symm
  | true =>
      have step : s.step signal = s.react signal := if_pos hr
      rw [step]
      have up : said s = [true] := by simp [said, hr]
      rw [up]
      cases hh : s.heard with
      | false =>
          obtain ⟨hh', silent⟩ := Stream.react_of_not_heard hh signal
          rw [silent]
          simp [said, hh', marks]
      | true =>
          have reaction := Stream.reaction_react hr hh signal
          cases hreact : s.react signal with
          | mk t effects =>
              rw [hreact] at reaction
              cases reaction with
              | goesOn _ _ running heard events =>
                  rw [events, marks_of_frame]
                  simp [said, running]
              | ends reason _ running heard events =>
                  rw [events]
                  simp [said, running, heard, marks, Event.mark?]
              | left => simp [said, marks, Stream.taken]

theorem sound_opening : Sound opening where
  flag := rfl
  notices := by
    intro n hn
    cases hn
  marked := rfl

theorem Sound.dispatch (h : Sound s) (seen : Option String) : Sound (s.dispatch seen) := by
  unfold Line.dispatch
  cases he : s.events with
  | nil => exact h
  | cons e rest =>
      have marked := h.marked
      simp only [all, he] at marked
      cases hu : Update.ofEvent? seen e with
      | none =>
          refine ⟨h.flag, ?_, ?_⟩
          · simpa [hu] using h.notices
          · -- an event that is passed over has nothing to say about the connection
            have silent : marks [e] = [] := by simp [marks, mark?_of_no_update hu]
            rw [← marked, List.append_cons, marks_append _ rest, marks_append _ [e], silent]
            simp [all, marks_append, hu]
      | some u =>
          refine ⟨h.flag, ?_, ?_⟩
          · intro n hn
            simp only [hu, Option.map_some, Option.toList_some, List.mem_append, List.mem_singleton] at hn
            rcases hn with hn | rfl
            · exact h.notices n hn
            · exact ⟨seen, hu⟩
          · rw [← marked]
            simp [all, hu]

theorem Sound.deliver (h : Sound s) : Sound s.deliver := by
  unfold Line.deliver
  cases hu : s.updates with
  | nil => exact h
  | cons n rest =>
      have notices := h.notices
      have marked := h.marked
      rw [hu] at notices
      simp only [all, hu] at marked
      obtain ⟨seen, decided⟩ := notices n List.mem_cons_self
      refine ⟨?_, fun m hm => notices m (List.mem_cons_of_mem _ hm), ?_⟩
      · show (s.view.apply n.update).live = _
        rw [live_apply s.view decided, h.flag, marks_append]
        cases hm : n.event.mark? with
        | none => simp [marks, hm]
        | some live => simp [marks, hm]
      · rw [← marked]
        simp [all]

/-- **One move** leaves the line sound, unless it is an update about the connection that did not come from the
    stream. -/
theorem Sound.apply (h : Sound s) {move : Move}
    (hm : ∀ live status, move ≠ .operate (.apply (.connection live status))) : Sound (s.apply move) := by
  cases move with
  | signal signal =>
      refine ⟨h.flag, h.notices, ?_⟩
      show marks (s.applied ++ s.updates.map (·.event) ++ (s.events ++ _)) = said (s.stream.step signal).1
      rw [← List.append_assoc, marks_append, said_step, ← h.marked]
      rfl
  | dispatch seen => exact h.dispatch seen
  | deliver => exact h.deliver
  | operate op =>
      refine ⟨?_, h.notices, h.marked⟩
      have foreign : ∀ live status, op ≠ .apply (.connection live status) := by
        rintro live status rfl
        exact hm live status rfl
      exact (View.live_perform foreign).trans h.flag

/-- **Every run** leaves the line sound. -/
theorem sound_run {moves : List Move} (h : Sound s)
    (hm : ∀ live status, .operate (.apply (.connection live status)) ∉ moves) : Sound (s.run moves) := by
  induction moves generalizing s with
  | nil => exact h
  | cons move rest ih =>
      have first : Sound (s.apply move) := h.apply fun live status eq => hm live status (eq ▸ List.mem_cons_self)
      exact ih first fun live status hmem => hm live status (List.mem_cons_of_mem _ hmem)

/-! ## When live events are up -/

/-- The update of `connected` has been applied, that of `disconnected` has not. -/
def Up (s : Line) : Prop :=
  .connected ∈ s.applied ∧ ∀ reason, .disconnected reason ∉ s.applied

theorem mem_marks_true {events : List Event} : true ∈ marks events ↔ .connected ∈ events := by
  unfold marks
  rw [List.mem_filterMap]
  constructor
  · rintro ⟨e, he, mark⟩
    cases e with
    | connected => exact he
    | _ => cases mark
  · intro h
    exact ⟨.connected, h, rfl⟩

theorem mem_marks_false {events : List Event} :
    false ∈ marks events ↔ ∃ reason, .disconnected reason ∈ events := by
  unfold marks
  rw [List.mem_filterMap]
  constructor
  · rintro ⟨e, he, mark⟩
    cases e with
    | disconnected reason => exact ⟨reason, he⟩
    | _ => cases mark
  · rintro ⟨reason, h⟩
    exact ⟨.disconnected reason, h, rfl⟩

/-- What has been applied about the connection is a beginning of `connected`, `disconnected`. -/
theorem Sound.applied_prefix (h : Sound s) : marks s.applied <+: [true, false] := by
  have beginning : marks s.applied <+: said s.stream := by
    rw [← h.marked, all, List.append_assoc, marks_append]
    exact List.prefix_append _ _
  refine beginning.trans ?_
  unfold said
  split
  · exact List.prefix_refl _
  · exact ⟨[false], rfl⟩

theorem Sound.live_iff_up (h : Sound s) : s.view.live = true ↔ s.Up := by
  unfold Up
  rw [h.flag, ← mem_marks_true, ← not_exists, ← mem_marks_false]
  -- nothing has been applied about the connection, or `connected` alone, or both
  rcases List.prefix_cons_iff.mp h.applied_prefix with none | ⟨rest, more, hrest⟩
  · simp [none]
  · rcases List.prefix_cons_iff.mp hrest with rfl | ⟨last, rfl, hlast⟩
    · simp [more]
    · rw [List.prefix_nil.mp hlast] at more
      simp [more]

/-- Once nothing waits any more, live events are up exactly if the stream still runs. -/
theorem Sound.live_of_drained (h : Sound s) (hh : s.stream.heard = true) (he : s.events = [])
    (hu : s.updates = []) : s.view.live = s.stream.running := by
  have everything : marks s.applied = said s.stream := by
    rw [← h.marked]
    simp [all, he, hu]
  rw [h.flag, everything]
  cases hr : s.stream.running with
  | true => simp [said, hr]
  | false => simp [said, hr, hh]

/-- **Live events are held to be up** exactly from the update of `connected` until that of `disconnected`, whatever
    arrives, whatever is selected and whenever anybody looks. In between nothing is loaded again after it was sent;
    before and after that the selected channel is, and no other. The two updates come once at most and in this order,
    no frame leads to either, and once everything has been passed on the view is right about the stream. -/
theorem live_iff {moves : List Move}
    (h : ∀ live status, .operate (.apply (.connection live status)) ∉ moves) :
    let s := opening.run moves
    (s.view.live = true ↔ s.Up) ∧
    (s.Up → ∀ id, s.view.reloadAfterSend id = false) ∧
    (¬s.Up → ∀ id, s.view.reloadAfterSend id = true ↔ s.view.selected = some id) ∧
    marks s.applied <+: [true, false] ∧
    (∀ frame e, Event.ofFrame frame = .ok e → e.mark? = none) ∧
    (s.stream.heard = true → s.events = [] → s.updates = [] → s.view.live = s.stream.running) := by
  intro s
  have sound : Sound s := sound_run sound_opening h
  refine ⟨sound.live_iff_up, ?_, ?_, sound.applied_prefix, ?_, sound.live_of_drained⟩
  · intro up id
    unfold View.reloadAfterSend
    rw [sound.live_iff_up.mpr up]
    rfl
  · intro down id
    have off : s.view.live = false := by
      rw [← Bool.not_eq_true, sound.live_iff_up]
      exact down
    unfold View.reloadAfterSend
    rw [off]
    simp
  · intro frame e
    exact mark?_of_frame

/-- A channel is selected, the stream comes up, a frame claims that it did so again, and the stream ends. -/
def evening : List Move := [
  .operate (.replaceChannels [{ id := "C1", name := "lobby", kind := .channel }]), .dispatch none, .deliver,
  .signal (.text "\x7b\"type\":\"connected\"\x7d"), .signal (.text "\x7b\"type\":\"goodbye\"\x7d"), .dispatch none, .deliver,
  .signal .ended, .operate (.select "C1"), .dispatch (some "C1")]

theorem live_in_evening :
    (∀ live status, .operate (.apply (.connection live status)) ∉ evening) ∧
    (opening.run evening).Up ∧
    (opening.run evening).view.reloadAfterSend "C1" = false ∧
    (opening.run (evening ++ [.deliver])).view.live = false ∧
    (opening.run (evening ++ [.deliver])).view.reloadAfterSend "C1" = true := by
  have own : ∀ live status, .operate (.apply (.connection live status)) ∉ evening := by simp [evening]
  have ends : ∀ live status, .operate (.apply (.connection live status)) ∉ evening ++ [.deliver] := by
    simp [evening]
  have on : (opening.run evening).view.live = true := by decide +kernel
  have off : (opening.run (evening ++ [.deliver])).view.live = false := by decide +kernel
  have selected : (opening.run (evening ++ [.deliver])).view.selected = some "C1" := by decide +kernel
  obtain ⟨live, between, -⟩ := live_iff own
  obtain ⟨live', -, outside, -⟩ := live_iff ends
  refine ⟨own, live.mp on, between (live.mp on) "C1", off, (outside ?_ "C1").mpr selected⟩
  rw [← live', off]
  decide

end Line

end Live

end TeamChat
