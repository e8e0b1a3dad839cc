import Mathlib.Logic.Relation
import TeamChat.Live.Dispatcher
import TeamChat.Proofs.View.Reachable

/-!
# `Live.Relay`: updates on their way while the selection moves

The dispatcher and the view run side by side. The dispatcher takes an event, looks at the selection, decides
on an update and puts it into a queue; the view takes updates out of the queue and is operated in between.
So an update that was decided on under one selection may be applied under another.

A post that is something new is meant to become visible in one of two ways: its channel is on screen and is
loaded again, or it is not on screen and is flagged. That holds exactly as long as both selections agree on
the channel (`shown_iff`), and it fails for a channel that was entered or left in between.

## Contents
- `Live.Ticket`, `Live.Relay`, `Relay.Step`, `Relay.Reachable`: dispatcher, queue and view, step by step.
- `Relay.Sound`, `Relay.Reachable.sound`: what every interleaving preserves.
- `Sound.dispatched`, `steps_events`: what is on its way is what the dispatcher by itself hands on.
- `Live.Shown`: a new post has become visible.
- `Relay.not_always_shown`, `Relay.shown_iff`: when it has not, and when it has.
-/

namespace TeamChat.Live

open Channel (Entry)
open Wire (Event)

/-! ## The relay -/

/-- An update on its way, with the event it was decided on for and the selection that was seen then. -/
structure Ticket where
  event : Event
  seen : Option String
  update : Update
deriving DecidableEq, Repr

/-- How far the dispatcher is with an event. -/
inductive Phase
  | idle
  | holding (e : Event)
  | looked (e : Event) (seen : Option String)
  | handing (t : Ticket)
deriving DecidableEq, Repr

/-- The view, the dispatcher, and the updates between them, oldest first. -/
structure Relay where
  view : View
  phase : Phase := .idle
  queue : List Ticket := []

namespace Relay

/-- One step of the dispatcher or of the view. The queue has room for `room` updates, and the dispatcher
    waits while it is full. -/
inductive Step (room : Nat) : Relay → Relay → Prop
  | take {v q} (e : Event) : Step room ⟨v, .idle, q⟩ ⟨v, .holding e, q⟩
  | look {v q e} : Step room ⟨v, .holding e, q⟩ ⟨v, .looked e v.watched, q⟩
  | pass {v q e seen} (h : Update.ofEvent? seen e = none) :
      Step room ⟨v, .looked e seen, q⟩ ⟨v, .idle, q⟩
  | decide {v q e seen u} (h : Update.ofEvent? seen e = some u) :
      Step room ⟨v, .looked e seen, q⟩ ⟨v, .handing ⟨e, seen, u⟩, q⟩
  | enqueue {v q t} (h : q.length < room) : Step room ⟨v, .handing t, q⟩ ⟨v, .idle, q ++ [t]⟩
  | deliver {v p t q} : Step room ⟨v, p, t :: q⟩ ⟨v.apply t.update, p, q⟩
  | operate {v p q} (op : View.Operation)
      (h : ∀ channels, op.installed? = some channels → (channels.map (·.id)).Nodup) :
      Step room ⟨v, p, q⟩ ⟨v.perform op, p, q⟩

/-- The relays that any interleaving leads to from a reachable view whose channels have distinct ids. -/
inductive Reachable (room : Nat) : Relay → Prop
  | start {v : View} : v.Reachable → v.ids.Nodup → Reachable room ⟨v, .idle, []⟩
  | next {s s' : Relay} : Reachable room s → Step room s s' → Reachable room s'

/-! ## What every interleaving preserves -/

/-- The update that the dispatcher has in hand. -/
def Phase.tickets : Phase → List Ticket
  | .handing t => [t]
  | _ => []

/-- The selection is told as it is, ids are distinct, and every update on its way is the one that its event
    leads to under the selection that was seen. -/
structure Sound (s : Relay) : Prop where
  watched : s.view.watched = s.view.selected
  distinct : s.view.ids.Nodup
  tickets : ∀ t ∈ s.queue ++ Phase.tickets s.phase, Update.ofEvent? t.seen t.event = some t.update

theorem distinct_perform {v : View} (hv : v.ids.Nodup) {op : View.Operation}
    (h : ∀ channels, op.installed? = some channels → (channels.map (·.id)).Nodup) :
    (v.perform op).ids.Nodup := by
  rw [View.ids_perform]
  cases ho : op.installed? with
  | none => exact hv
  | some channels => exact h channels ho

theorem Sound.step {room : Nat} {s s' : Relay} (h : Sound s) (hs : Step room s s') : Sound s' := by
  obtain ⟨hw, hd, ht⟩ := h
  cases hs with
  | take e => exact ⟨hw, hd, ht⟩
  | look => exact ⟨hw, hd, ht⟩
  | pass _ => exact ⟨hw, hd, ht⟩
  | decide hu =>
      -- the new ticket holds what was decided on; the others are as before
      refine ⟨hw, hd, fun t hm => ?_⟩
      rcases List.mem_append.mp hm with hq | hp
      · exact ht t (List.mem_append_left _ hq)
      · rw [List.mem_singleton.mp hp]
        exact hu
  | enqueue _ =>
      refine ⟨hw, hd, fun t hm => ht t ?_⟩
      simpa [Phase.tickets] using hm
  | @deliver v p t q =>
      -- no update moves the selection or the ids
      refine ⟨?_, ?_, fun t' hm => ht t' (List.mem_cons_of_mem t hm)⟩
      · exact (View.watched_apply t.update).trans (hw.trans (View.selected_apply t.update).symm)
      · rw [View.ids_apply]
        exact hd
  | operate op ho => exact ⟨View.watched_perform hw op, distinct_perform hd ho, ht⟩

theorem Reachable.sound {room : Nat} {s : Relay} (h : Reachable room s) : Sound s := by
  induction h with
  | start hv hd => exact ⟨hv.watched_eq, hd, fun t hm => absurd hm List.not_mem_nil⟩
  | next _ hs ih => exact ih.step hs

/-! ## The dispatcher by itself -/

variable {room : Nat} {s : Relay}

/-- **Every update on its way** is the one that the dispatcher by itself hands on, under the selection that was
    seen. -/
theorem Sound.dispatched (h : Sound s) {t : Ticket} (ht : t ∈ s.queue ++ Phase.tickets s.phase) :
    (Dispatcher.step { selected := t.seen } (.event t.event)).2 = [t.update] := by
  show (Update.ofEvent? t.seen t.event).toList = [t.update]
  rw [h.tickets t ht]
  rfl

/-- **One event** that nothing comes between leads to the updates that the dispatcher by itself hands on. -/
theorem steps_event (v : View) {q : List Ticket} (e : Event) (hroom : q.length < room) :
    ∃ tickets : List Ticket, tickets.length ≤ 1 ∧
      Relation.TransGen (Step room) ⟨v, .idle, q⟩ ⟨v, .idle, q ++ tickets⟩ ∧
      tickets.map (·.update) = (Dispatcher.step { selected := v.watched } (.event e)).2 := by
  have looked : Relation.TransGen (Step room) ⟨v, .idle, q⟩ ⟨v, .looked e v.watched, q⟩ :=
    (Relation.TransGen.single (.take e)).tail .look
  cases hu : Update.ofEvent? v.watched e with
  | none =>
      refine ⟨[], Nat.zero_le _, ?_, ?_⟩
      · rw [List.append_nil]
        exact looked.tail (.pass hu)
      · show [] = (Update.ofEvent? v.watched e).toList
        rw [hu]
        rfl
  | some u =>
      refine ⟨[⟨e, v.watched, u⟩], Nat.le_refl _, (looked.tail (.decide hu)).tail (.enqueue hroom), ?_⟩
      show [u] = (Update.ofEvent? v.watched e).toList
      rw [hu]
      rfl

/-- **Several events** that nothing comes between, as long as there is room for their updates. -/
theorem steps_events (v : View) {q : List Ticket} (es : List Event) (hroom : q.length + es.length ≤ room) :
    ∃ tickets : List Ticket,
      Relation.ReflTransGen (Step room) ⟨v, .idle, q⟩ ⟨v, .idle, q ++ tickets⟩ ∧
      tickets.map (·.update) = (Dispatcher.run (es.map .event) { selected := v.watched }).2 := by
  induction es generalizing q with
  | nil => exact ⟨[], by rw [List.append_nil], rfl⟩
  | cons e rest ih =>
      rw [List.length_cons] at hroom
      have hone : q.length < room := by omega
      obtain ⟨first, hlen, hsteps, hfirst⟩ := steps_event v e hone
      have hrest : (q ++ first).length + rest.length ≤ room := by
        rw [List.length_append]
        omega
      obtain ⟨later, hsteps', hlater⟩ := ih hrest
      refine ⟨first ++ later, ?_, ?_⟩
      · rw [← List.append_assoc]
        exact hsteps.to_reflTransGen.trans hsteps'
      · rw [List.map_append, hfirst, hlater]
        rfl

end Relay

/-! ## What an event about a new post leads to -/

/-- The update of a new post depends on the selection only through whether it is the post's channel. -/
theorem ofEvent?_newMessage {seen : Option String} {body : Wire.MessageEvent} {u : Update}
    (hn : isNewMessage body.post.subtype = true)
    (hu : Update.ofEvent? seen (.message body) = some u) :
    u = if seen = some body.channel then .reloadHistory body.channel else .notify body.channel := by
  rw [Update.ofEvent?] at hu
  by_cases he : body.channel.isEmpty = true
  · rw [if_pos he] at hu
    cases hu
  · rw [if_neg he] at hu
    by_cases hs : seen = some body.channel
    · rw [if_pos hs] at hu ⊢
      exact (Option.some.inj hu).symm
    · rw [if_neg hs, if_pos hn] at hu
      rw [if_neg hs]
      exact (Option.some.inj hu).symm

/-- A new post has become visible once its update is applied: either its channel is on screen and is to be
    loaded again, or it is not on screen and is flagged. -/
def Shown (channel : String) (u : Update) (v : View) : Prop :=
  Xor ((v.apply u).selected = some channel ∧ (v.apply u).reloadAfter? u = some channel)
    ((v.apply u).selected ≠ some channel ∧ (v.apply u).Flagged channel)

variable {v : View} {c : String}

/-- Loading a channel again shows it if it is on screen; else it has to be flagged already. -/
theorem shown_reloadHistory_iff :
    Shown c (.reloadHistory c) v ↔ v.selected = some c ∨ v.selected ≠ some c ∧ v.Flagged c := by
  unfold Shown
  by_cases hs : v.selected = some c
  · simp [View.apply, View.reloadAfter?, hs, Xor]
  · simp [View.apply, View.reloadAfter?, hs, Xor]

/-- A notification shows its channel unless it is on screen. -/
theorem shown_notify_iff (hd : v.ids.Nodup) (hl : c ∈ v.ids) :
    Shown c (.notify c) v ↔ v.selected ≠ some c := by
  have hf : (v.apply (.notify c)).Flagged c := View.flagged_setNotification hd hl
  unfold Shown
  rw [View.selected_apply]
  simp [View.reloadAfter?, hf, Xor]

namespace Relay

/-! ## When a new post becomes visible -/

/-- A channel that is called by its id. -/
def plain (id : String) : Entry := { id := id, name := id, kind := .channel }

/-- Two channels, of which the first is on screen. -/
def twoChannels : View := View.perform {} (.replaceChannels [plain "C1", plain "C2"])

/-- A post that arrives in a channel. -/
def postIn (channel : String) : Wire.MessageEvent := { channel := channel }

/-- While the first of two channels is on screen, an update for a post is queued. -/
theorem reachable_queued (channel : String) {u : Update}
    (hu : Update.ofEvent? (some "C1") (.message (postIn channel)) = some u) :
    Reachable 256 ⟨twoChannels, .idle, [⟨.message (postIn channel), some "C1", u⟩]⟩ := by
  have idle : Reachable 256 ⟨twoChannels, .idle, []⟩ := .start (.next _ .start) (by decide)
  have looked := (idle.next (.take (.message (postIn channel)))).next .look
  exact (looked.next (.decide hu)).next (.enqueue (by decide))

/-- The notification of a post is on its way, and its channel is entered meanwhile. -/
theorem reachable_entered :
    Reachable 256 ⟨twoChannels.perform (.select "C2"), .idle,
      [⟨.message (postIn "C2"), some "C1", .notify "C2"⟩]⟩ :=
  (reachable_queued "C2" (by decide)).next (.operate (.select "C2") fun _ h => nomatch h)

/-- A channel is to be loaded again for a post, and it is left and entered once more meanwhile. -/
theorem reachable_returned :
    Reachable 256 ⟨(twoChannels.perform (.select "C2")).perform (.selectByName "C1"), .idle,
      [⟨.message (postIn "C1"), some "C1", .reloadHistory "C1"⟩]⟩ :=
  ((reachable_queued "C1" (by decide)).next (.operate (.select "C2") fun _ h => nomatch h)).next
    (.operate (.selectByName "C1") fun _ h => nomatch h)

/-- **A new post may stay invisible**: a channel that is entered while the notification is on its way is on
    screen, and nothing asks for it to be loaded again. -/
theorem not_always_shown :
    ¬ ∀ (room : Nat) (s : Relay) (t : Ticket) (q : List Ticket) (body : Wire.MessageEvent),
      Reachable room s → s.queue = t :: q → t.event = .message body →
      isNewMessage body.post.subtype = true → body.channel ∈ s.view.ids →
      Shown body.channel t.update s.view := by
  intro h
  have shown := h 256 _ _ [] _ reachable_entered rfl rfl (by decide) (by decide)
  exact (shown_notify_iff (by decide) (by decide)).mp shown (by decide)

/-- **When a new post becomes visible.** Whatever happened between the dispatcher's look at the selection and
    the moment at which the update is applied: the post becomes visible exactly if both selections agree on
    its channel, or the channel was left and is flagged anyway. For a channel that was left nothing happens;
    one that was entered is flagged while it is on screen, and is not loaded again. -/
theorem shown_iff {room : Nat} {s : Relay} (hs : Reachable room s) {t : Ticket} {q : List Ticket}
    (hq : s.queue = t :: q) {body : Wire.MessageEvent} (he : t.event = .message body)
    (hn : isNewMessage body.post.subtype = true) (hl : body.channel ∈ s.view.ids) :
    s.view.watched = s.view.selected ∧
    (Shown body.channel t.update s.view ↔
      (t.seen = some body.channel ↔ s.view.selected = some body.channel) ∨
        s.view.selected ≠ some body.channel ∧ s.view.Flagged body.channel) ∧
    (t.seen = some body.channel → s.view.selected ≠ some body.channel →
      s.view.apply t.update = s.view ∧ (s.view.apply t.update).reloadAfter? t.update = none) ∧
    (t.seen ≠ some body.channel → s.view.selected = some body.channel →
      (s.view.apply t.update).Flagged body.channel ∧
        (s.view.apply t.update).reloadAfter? t.update = none) := by
  obtain ⟨hw, hd, ht⟩ := hs.sound
  have hu : Update.ofEvent? t.seen (.message body) = some t.update :=
    he ▸ ht t (by rw [hq]; exact List.mem_cons_self)
  have hu := ofEvent?_newMessage hn hu
  refine ⟨hw, ?_⟩
  -- the selection that was seen says which update it is, the present one what becomes of it
  by_cases hseen : t.seen = some body.channel
  · rw [if_pos hseen] at hu
    rw [hu, shown_reloadHistory_iff]
    refine ⟨by simp [hseen], fun _ hsel => ⟨rfl, ?_⟩, fun h => absurd hseen h⟩
    simp [View.reloadAfter?, View.apply, hsel]
  · rw [if_neg hseen] at hu
    rw [hu, shown_notify_iff hd hl]
    refine ⟨?_, fun h => absurd h hseen, fun _ _ => ⟨View.flagged_setNotification hd hl, rfl⟩⟩
    by_cases hsel : s.view.selected = some body.channel
    · simp [hseen, hsel]
    · simp [hseen, hsel]

/-- The post is seen although its channel was left and entered again while the update was on its way. -/
theorem shown_returned :
    let s : Relay := ⟨(twoChannels.perform (.select "C2")).perform (.selectByName "C1"), .idle,
      [⟨.message (postIn "C1"), some "C1", .reloadHistory "C1"⟩]⟩
    Reachable 256 s ∧ isNewMessage (postIn "C1").post.subtype = true ∧ "C1" ∈ s.view.ids ∧
      Shown "C1" (.reloadHistory "C1") s.view :=
  ⟨reachable_returned, by decide, by decide,
    (shown_iff reachable_returned rfl rfl (by decide) (by decide)).2.1.mpr (.inl (by decide))⟩

end Relay

end TeamChat.Live
