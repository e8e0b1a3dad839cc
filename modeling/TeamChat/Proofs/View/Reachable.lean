import Mathlib.Data.List.Nodup
import TeamChat.View

/-!
# `View.Reachable`: the views that operations lead to

Five operations change a view: a new list of channels, a selection by id or by name, an update, and a
history. A view is *reachable* if it arises from the empty view by any sequence of them.

## Contents
- `updateFirst_eq_map`: where ids are distinct, changing the first entry with an id is changing all of them.
- `View.Operation`, `View.perform`, `View.Reachable`: the operations, and the views that they lead to.
- `View.watched_perform`: what is told of the selection is the selection.
- `View.ids_perform`: only a new list changes which channels there are, and in which order.
- `View.connection_perform`: what an operation says of live events is what the view holds of them.
- `View.Flagged`: that there is something new in a channel.
-/

namespace TeamChat.View

open Channel (Entry)

variable {v : View} {id : String}

/-! ## Changing one entry -/

/-- A field that the change leaves alone is the same at every place of the list. -/
theorem map_updateFirst {α β : Type} {p : α → Bool} {f : α → α} {g : α → β} (hg : ∀ x, g (f x) = g x)
    (l : List α) : (updateFirst p f l).map g = l.map g := by
  induction l with
  | nil => rfl
  | cons x r ih =>
      unfold updateFirst
      by_cases hp : p x = true
      · rw [if_pos hp, List.map_cons, List.map_cons, hg]
      · rw [if_neg hp, List.map_cons, List.map_cons, ih]

/-- Nothing happens to a list in which no entry has the id. -/
theorem map_eq_self_of_not_mem {f : Entry → Entry} {l : List Entry} (h : id ∉ l.map (·.id)) :
    l.map (fun e => if e.id = id then f e else e) = l := by
  induction l with
  | nil => rfl
  | cons x r ih =>
      rw [List.map_cons, List.mem_cons, not_or] at h
      rw [List.map_cons, if_neg (Ne.symm h.1), ih h.2]

/-- **With distinct ids the first entry is the only one.** Changing the first entry with an id is changing
    every entry with it. -/
theorem updateFirst_eq_map {f : Entry → Entry} {l : List Entry} (h : (l.map (·.id)).Nodup) :
    updateFirst (fun e => e.id = id) f l = l.map fun e => if e.id = id then f e else e := by
  induction l with
  | nil => rfl
  | cons x r ih =>
      rw [List.map_cons, List.nodup_cons] at h
      unfold updateFirst
      by_cases hx : x.id = id
      · have hr : id ∉ r.map (·.id) := hx ▸ h.1
        rw [if_pos (decide_eq_true hx), List.map_cons, if_pos hx, map_eq_self_of_not_mem hr]
      · rw [if_neg (by simpa using hx), List.map_cons, if_neg hx, ih h.2]

/-! ## Operations -/

/-- What can be done to a view. -/
inductive Operation
  | replaceChannels (channels : List Entry)
  | select (id : String)
  | selectByName (name : String)
  | apply (u : Live.Update)
  | acceptHistory (id : String) (messages : List Message) (threads : List Thread.Reference)

/-- The view after an operation. -/
def perform (v : View) : Operation → View
  | .replaceChannels channels => v.replaceChannels channels
  | .select id => v.select id
  | .selectByName name => v.selectByName name
  | .apply u => v.apply u
  | .acceptHistory id messages threads => v.acceptHistory id messages threads

/-- The views that operations lead to from the empty one. -/
inductive Reachable : View → Prop
  | start : Reachable {}
  | next {v : View} (op : Operation) : Reachable v → Reachable (v.perform op)

/-- The ids of the channels, in the order of the sidebar. -/
def ids (v : View) : List String :=
  v.channels.map (·.id)

/-! ## What is told of the selection -/

theorem watched_select (h : v.watched = v.selected) : (v.select id).watched = (v.select id).selected := by
  simp only [select]
  split
  · split
    · exact h
    · rfl
  · exact h

theorem watched_selectByName {name : String} (h : v.watched = v.selected) :
    (v.selectByName name).watched = (v.selectByName name).selected := by
  unfold selectByName
  cases v.channelNamed? name with
  | none => exact h
  | some id => exact watched_select h

theorem watched_replaceChannels {channels : List Entry} (h : v.watched = v.selected) :
    (v.replaceChannels channels).watched = (v.replaceChannels channels).selected := by
  simp only [replaceChannels]
  split
  · exact h
  · cases channels with
    | nil => rfl
    | cons first rest => exact watched_select h

/-- An update moves no selection. -/
theorem selected_apply (u : Live.Update) : (v.apply u).selected = v.selected := by
  cases u <;> rfl

theorem watched_apply (u : Live.Update) : (v.apply u).watched = v.watched := by
  cases u <;> rfl

theorem watched_acceptHistory {messages : List Message} {threads : List Thread.Reference}
    (h : v.watched = v.selected) :
    (v.acceptHistory id messages threads).watched = (v.acceptHistory id messages threads).selected := by
  unfold acceptHistory
  split <;> exact h

/-- **Whoever follows the selection sees the selection**, before and after every operation. -/
theorem watched_perform (h : v.watched = v.selected) (op : Operation) :
    (v.perform op).watched = (v.perform op).selected := by
  cases op with
  | replaceChannels channels => exact watched_replaceChannels h
  | select id => exact watched_select h
  | selectByName name => exact watched_selectByName h
  | apply u => exact (watched_apply u).trans (h.trans (selected_apply u).symm)
  | acceptHistory id messages threads => exact watched_acceptHistory h

theorem Reachable.watched_eq (h : Reachable v) : v.watched = v.selected := by
  induction h with
  | start => rfl
  | next op _ ih => exact watched_perform ih op

/-! ## Which channels there are -/

@[simp] theorem ids_setNotification (notification : Bool) :
    (v.setNotification id notification).ids = v.ids := by
  refine map_updateFirst ?_ v.channels
  intro e
  rfl

@[simp] theorem ids_select : (v.select id).ids = v.ids := by
  simp only [select]
  split
  · split <;> exact ids_setNotification false
  · rfl

@[simp] theorem ids_selectByName (name : String) : (v.selectByName name).ids = v.ids := by
  unfold selectByName
  split
  · rfl
  · exact ids_select

@[simp] theorem ids_setPresence (user : String) (p : Channel.Presence) :
    (v.setPresence user p).ids = v.ids := by
  unfold setPresence ids
  rw [List.map_map]
  refine List.map_congr_left fun e _ => ?_
  simp only [Function.comp_apply]
  split <;> rfl

@[simp] theorem ids_apply (u : Live.Update) : (v.apply u).ids = v.ids := by
  cases u with
  | reloadHistory c => rfl
  | notify c => exact ids_setNotification true
  | presence user p => exact ids_setPresence user p
  | connection live status => rfl
  | status text => rfl

@[simp] theorem ids_replaceChannels (channels : List Entry) :
    (v.replaceChannels channels).ids = channels.map (·.id) := by
  simp only [replaceChannels]
  split
  · rfl
  · cases channels with
    | nil => rfl
    | cons first rest => exact ids_select

@[simp] theorem ids_acceptHistory (messages : List Message) (threads : List Thread.Reference) :
    (v.acceptHistory id messages threads).ids = v.ids := by
  unfold acceptHistory
  split <;> rfl

/-- The channels that an operation installs, if it installs any. -/
def Operation.installed? : Operation → Option (List Entry)
  | .replaceChannels channels => some channels
  | _ => none

/-- **Only a new list changes which channels there are**, and in which order. -/
theorem ids_perform (op : Operation) :
    (v.perform op).ids = (op.installed?.map fun cs => cs.map (·.id)).getD v.ids := by
  cases op with
  | replaceChannels channels => exact ids_replaceChannels channels
  | select id => exact ids_select
  | selectByName name => exact ids_selectByName name
  | apply u => exact ids_apply u
  | acceptHistory id messages threads => exact ids_acceptHistory messages threads

/-! ## The state of live events -/

/-- Whether live events arrive, as an operation says. -/
def Operation.live? : Operation → Option Bool
  | .apply (.connection live _) => some live
  | _ => none

/-- The status that an operation sets. -/
def Operation.status? : Operation → Option (Option String)
  | .apply (.connection _ status) => some (some status)
  | .apply (.status text) => some (some text)
  | _ => none

/-- Selecting a channel leaves the state of live events alone. -/
theorem connection_select (id : String) : (v.select id).live = v.live ∧ (v.select id).status = v.status := by
  simp only [select]
  split
  · split <;> exact ⟨rfl, rfl⟩
  · exact ⟨rfl, rfl⟩

theorem connection_replaceChannels (channels : List Entry) :
    (v.replaceChannels channels).live = v.live ∧ (v.replaceChannels channels).status = v.status := by
  simp only [replaceChannels]
  split
  · exact ⟨rfl, rfl⟩
  · cases channels with
    | nil => exact ⟨rfl, rfl⟩
    | cons first rest => exact connection_select first.id

/-- What an operation does to the state of live events. -/
theorem connection_perform (op : Operation) :
    (v.perform op).live = op.live?.getD v.live ∧ (v.perform op).status = op.status?.getD v.status := by
  cases op with
  | replaceChannels channels => exact connection_replaceChannels channels
  | select id => exact connection_select id
  | selectByName name =>
      show (v.selectByName name).live = v.live ∧ (v.selectByName name).status = v.status
      unfold selectByName
      cases v.channelNamed? name with
      | none => exact ⟨rfl, rfl⟩
      | some id => exact connection_select id
  | apply u => cases u <;> exact ⟨rfl, rfl⟩
  | acceptHistory id messages threads =>
      show (v.acceptHistory id messages threads).live = v.live ∧ (v.acceptHistory id messages threads).status = v.status
      unfold acceptHistory
      split <;> exact ⟨rfl, rfl⟩

/-! ## Notification flags -/

/-- There is something new in a channel: it is listed, and every entry with its id says so. -/
def Flagged (v : View) (id : String) : Prop :=
  id ∈ v.ids ∧ ∀ e ∈ v.channels, e.id = id → e.notification = true

/-- Where ids are distinct, a listed channel that is marked is flagged. -/
theorem flagged_setNotification (h : v.ids.Nodup) (hl : id ∈ v.ids) :
    (v.setNotification id true).Flagged id := by
  refine ⟨ids_setNotification (v := v) true ▸ hl, fun e he hid => ?_⟩
  simp only [setNotification, updateFirst_eq_map h, List.mem_map] at he
  obtain ⟨x, _, rfl⟩ := he
  by_cases hx : x.id = id
  · rw [if_pos hx]
  · rw [if_neg hx] at hid
    exact absurd hid hx

end TeamChat.View
