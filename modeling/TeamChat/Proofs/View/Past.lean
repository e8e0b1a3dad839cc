import TeamChat.Proofs.View.Selection

/-!
# `View.Reflects`: the view and its past

Each operation says something of some fields of the view: a selection, that a channel is selected and that there is
nothing new in it; a notice, that there is something new in a channel; an update, who is there or how live events stand.
What a field holds is what the last operation that said anything of it said (`latest`), or else what it held when the
sidebar was put in. Nothing else of a sidebar changes until another one takes its place (`reflects_past`).

## Contents
- `View.latest`: what the last operation says that says anything.
- `Operation.selects?`, `flags?`, `presence?`: what an operation says.
- `View.entryAfter`, `entryAfter_append`, `entryAfter_map`: an entry after some operations.
- `channels_perform`, `selected_perform`: what one operation does.
- `View.Reflects`, `Reflects.perform`, `Reflects.performAll`: a view holds what its past says.
- `View.opening`, `replaceChannels_eq`: the selection that a new sidebar makes by itself.
- `reflects_past`: the view is its past.
-/

namespace TeamChat.View

open Channel (Entry Presence)

variable {v : View} {op : Operation} {cs : List Entry} {e : Entry}

/-! ## What operations say -/

/-- What the last operation says that says anything; `start` if none does. -/
def latest {α : Type} (says? : Operation → Option α) (past : List Operation) (start : α) : α :=
  (past.filterMap says?).getLast?.getD start

section Latest

variable {α : Type} (says? : Operation → Option α) (past : List Operation) (start : α)

theorem latest_append (op : Operation) :
    latest says? (past ++ [op]) start = (says? op).getD (latest says? past start) := by
  unfold latest
  rw [List.filterMap_append]
  cases h : says? op with
  | none => simp [h]
  | some a => simp [h]

@[simp] theorem latest_singleton (op : Operation) : latest says? [op] start = (says? op).getD start :=
  latest_append says? [] start op

end Latest

namespace Operation

/-- The channel that an operation selects in a sidebar: the one that it asks for, if it is listed. -/
def selects? (cs : List Entry) : Operation → Option String
  | .select id => if id ∈ cs.map (·.id) then some id else none
  | .selectByName name => (cs.find? fun e => e.name = name).map (·.id)
  | _ => none

/-- The channel in which there is something new, as an operation says. -/
def notifies? : Operation → Option String
  | .apply (.notify channel) => some channel
  | _ => none

/-- Whether there is something new in a channel, as an operation says: a notice says that there is, and a selection that
    there is not. -/
def flags? (cs : List Entry) (id : String) (op : Operation) : Option Bool :=
  if op.notifies? = some id then some true
  else if op.selects? cs = some id then some false
  else none

/-- Whether the other side of an entry is there, as an operation says: an update about the user of a direct one. -/
def presence? (e : Entry) : Operation → Option Presence
  | .apply (.presence user p) => if e.isDirect = true ∧ e.userId = user then some p else none
  | _ => none

end Operation

/-- **An entry of a sidebar after some operations.** Its flag and its presence are what was said of it last; all else is
    as it was. -/
def entryAfter (cs : List Entry) (past : List Operation) (e : Entry) : Entry :=
  { e with
    notification := latest (Operation.flags? cs e.id) past e.notification
    presence := latest (Operation.presence? e) past e.presence }

/-- What one more operation says comes on top of what was said before. -/
theorem entryAfter_append (past : List Operation) (op : Operation) :
    entryAfter cs (past ++ [op]) e = entryAfter cs [op] (entryAfter cs past e) := by
  have hsame : Operation.presence? (entryAfter cs past e) = Operation.presence? e := rfl
  rw [entryAfter, latest_append, latest_append]
  conv_rhs => rw [entryAfter, hsame, latest_singleton, latest_singleton]
  rfl

/-- Which channel is selected depends on the ids and names of the sidebar alone. -/
theorem selects?_map {f : Entry → Entry} (hid : ∀ e, (f e).id = e.id) (hname : ∀ e, (f e).name = e.name)
    (op : Operation) : op.selects? (cs.map f) = op.selects? cs := by
  have hids : (cs.map f).map (·.id) = cs.map (·.id) := by
    rw [List.map_map]
    exact List.map_congr_left fun e _ => hid e
  cases op with
  | select id => simp only [Operation.selects?, hids]
  | selectByName name =>
      simp only [Operation.selects?, List.find?_map, Option.map_map, Function.comp_def, hid, hname]
  | _ => rfl

/-- So operations go on saying the same of an entry. -/
theorem entryAfter_map (past past' : List Operation) :
    entryAfter (cs.map (entryAfter cs past)) past' = entryAfter cs past' := by
  have hs : Operation.selects? (cs.map (entryAfter cs past)) = Operation.selects? cs :=
    funext (selects?_map (f := entryAfter cs past) (fun _ => rfl) fun _ => rfl)
  have hflags : Operation.flags? (cs.map (entryAfter cs past)) = Operation.flags? cs := by
    funext id op
    rw [Operation.flags?, Operation.flags?, hs]
  funext e
  rw [entryAfter, entryAfter, hflags]

/-! ## One operation -/

/-- An operation that says nothing of an entry leaves it as it is. -/
theorem entryAfter_of_silent (hn : op.notifies? = none) (hs : op.selects? cs = none)
    (hp : op.presence? e = none) : entryAfter cs [op] e = e := by
  have hf : op.flags? cs e.id = none := by simp [Operation.flags?, hn, hs]
  rw [entryAfter, latest_singleton, latest_singleton, hf, hp]
  rfl

/-- A sidebar of which an operation says nothing stays as it is. -/
theorem map_entryAfter_of_silent (hn : op.notifies? = none) (hs : op.selects? cs = none)
    (hp : ∀ e ∈ cs, op.presence? e = none) : cs.map (entryAfter cs [op]) = cs := by
  refine (List.map_congr_left fun e he => ?_).trans (List.map_id cs)
  exact entryAfter_of_silent hn hs (hp e he)

/-- What a selection and a notice do to the sidebar: they mark one entry. -/
theorem channels_setNotification (h : v.ids.Nodup) (id : String) (notification : Bool) :
    (v.setNotification id notification).channels =
      v.channels.map fun e => if e.id = id then { e with notification := notification } else e :=
  updateFirst_eq_map h

/-- Selecting a channel marks its entry, if there is one. -/
theorem channels_select (h : v.ids.Nodup) (id : String) :
    (v.select id).channels =
      v.channels.map fun e => if e.id = id then { e with notification := false } else e := by
  unfold select
  by_cases hl : v.lists id = true
  · rw [if_pos hl]
    have hmark := channels_setNotification h id false
    simp only []
    split
    · exact hmark
    · exact hmark
  · rw [if_neg hl]
    exact (map_eq_self_of_not_mem fun hmem => hl (lists_iff.mpr hmem)).symm

/-- An operation that selects a listed channel and says nothing else marks the entry of this channel. -/
theorem entryAfter_of_selects {id : String} (hn : op.notifies? = none) (hs : op.selects? cs = some id)
    (hp : op.presence? e = none) :
    entryAfter cs [op] e = if e.id = id then { e with notification := false } else e := by
  rw [entryAfter, latest_singleton, latest_singleton, hp, Operation.flags?, hn, hs]
  by_cases he : e.id = id
  · simp [he]
  · simp [he, Ne.symm he]

/-- **What an operation does to the sidebar**: each entry holds what the operation says of it, and is left as it is
    otherwise. -/
theorem channels_perform (h : v.ids.Nodup) (hop : op.installed? = none) :
    (v.perform op).channels = v.channels.map (entryAfter v.channels [op]) := by
  cases op with
  | replaceChannels channels => exact absurd hop (by simp [Operation.installed?])
  | select id =>
      show (v.select id).channels = _
      rw [channels_select h]
      by_cases hl : id ∈ v.ids
      · have hs : (Operation.select id).selects? v.channels = some id := if_pos hl
        exact List.map_congr_left fun e _ => (entryAfter_of_selects rfl hs rfl).symm
      · have hs : (Operation.select id).selects? v.channels = none := if_neg hl
        rw [map_eq_self_of_not_mem hl, map_entryAfter_of_silent rfl hs fun _ _ => rfl]
  | selectByName name =>
      show (v.selectByName name).channels = _
      unfold selectByName
      cases hc : v.channelNamed? name with
      | none =>
          have hs : (Operation.selectByName name).selects? v.channels = none := hc
          exact (map_entryAfter_of_silent rfl hs fun _ _ => rfl).symm
      | some id =>
          have hs : (Operation.selectByName name).selects? v.channels = some id := hc
          show (v.select id).channels = _
          rw [channels_select h]
          exact List.map_congr_left fun e _ => (entryAfter_of_selects rfl hs rfl).symm
  | acceptHistory id messages threads =>
      have hkept : (v.acceptHistory id messages threads).channels = v.channels := by
        unfold acceptHistory
        split <;> rfl
      exact hkept.trans (map_entryAfter_of_silent rfl rfl fun _ _ => rfl).symm
  | apply u =>
      cases u with
      | reloadHistory channel => exact (map_entryAfter_of_silent rfl rfl fun _ _ => rfl).symm
      | connection live status => exact (map_entryAfter_of_silent rfl rfl fun _ _ => rfl).symm
      | status text => exact (map_entryAfter_of_silent rfl rfl fun _ _ => rfl).symm
      | notify channel =>
          refine (channels_setNotification h channel true).trans (List.map_congr_left fun e _ => ?_)
          rw [entryAfter, latest_singleton, latest_singleton]
          by_cases he : e.id = channel
          · simp [Operation.flags?, Operation.notifies?, Operation.presence?, he]
          · simp [Operation.flags?, Operation.notifies?, Operation.selects?, Operation.presence?, he, Ne.symm he]
      | presence user p =>
          refine List.map_congr_left fun e _ => ?_
          rw [entryAfter, latest_singleton, latest_singleton]
          by_cases he : e.isDirect = true ∧ e.userId = user
          · simp [Operation.flags?, Operation.notifies?, Operation.selects?, Operation.presence?, he]
          · simp [Operation.flags?, Operation.notifies?, Operation.selects?, Operation.presence?, he]

/-- What an operation does to the selection. -/
theorem selected_perform (hop : op.installed? = none) :
    (v.perform op).selected = (op.selects? v.channels).or v.selected := by
  cases op with
  | replaceChannels channels => exact absurd hop (by simp [Operation.installed?])
  | select id =>
      show (v.select id).selected = _
      rw [selected_select]
      by_cases hl : id ∈ v.ids
      · have hs : (Operation.select id).selects? v.channels = some id := if_pos hl
        rw [if_pos (lists_iff.mpr hl), hs]
        rfl
      · have hs : (Operation.select id).selects? v.channels = none := if_neg hl
        rw [if_neg (fun h => hl (lists_iff.mp h)), hs]
        rfl
  | selectByName name => exact selected_selectByName
  | apply u => exact selected_apply u
  | acceptHistory id messages threads => exact selected_acceptHistory messages threads

/-! ## The view and its past -/

/-- **A view holds what its past says**, since a sidebar was put into the view `start`. The sidebar has the same entries
    in the same order; of each only the flag and the presence may differ, and they are what was said of it last. The
    selection, and the state of live events, are what was said of them last. -/
structure Reflects (start : View) (cs : List Entry) (past : List Operation) (v : View) : Prop where
  channels : v.channels = cs.map (entryAfter cs past)
  selected : v.selected = latest (fun op => (op.selects? cs).map some) past
    (start.selected.filter fun id => id ∈ cs.map (·.id))
  live : v.live = latest Operation.live? past start.live
  status : v.status = latest Operation.status? past start.status

namespace Reflects

variable {start : View} {past : List Operation}

theorem ids (h : Reflects start cs past v) : v.ids = cs.map (·.id) := by
  unfold View.ids
  rw [h.channels, List.map_map]
  rfl

theorem selects?_eq (h : Reflects start cs past v) (op : Operation) : op.selects? v.channels = op.selects? cs := by
  rw [h.channels]
  exact selects?_map (f := entryAfter cs past) (fun _ => rfl) (fun _ => rfl) op

/-- **One more operation says one thing more.** -/
theorem perform (h : Reflects start cs past v) (hcs : (cs.map (·.id)).Nodup) (hop : op.installed? = none) :
    Reflects start cs (past ++ [op]) (v.perform op) where
  channels := by
    have hids : v.ids.Nodup := h.ids ▸ hcs
    rw [channels_perform hids hop, h.channels, entryAfter_map, List.map_map]
    exact List.map_congr_left fun e _ => (entryAfter_append past op).symm
  selected := by
    rw [selected_perform hop, h.selects?_eq, h.selected, latest_append]
    cases op.selects? cs <;> rfl
  live := by rw [(connection_perform op).1, h.live, latest_append]
  status := by rw [(connection_perform op).2, h.status, latest_append]

end Reflects

/-- The view after operations, one after the other. -/
def performAll (v : View) (ops : List Operation) : View :=
  ops.foldl perform v

theorem Reflects.performAll {start : View} {past ops : List Operation} (h : Reflects start cs past v)
    (hcs : (cs.map (·.id)).Nodup) (hops : ∀ op ∈ ops, op.installed? = none) :
    Reflects start cs (past ++ ops) (v.performAll ops) := by
  induction ops generalizing v past with
  | nil =>
      rw [List.append_nil]
      exact h
  | cons op rest ih =>
      have hstep := h.perform hcs (hops op List.mem_cons_self)
      rw [List.append_cons]
      exact ih hstep fun op' hop' => hops op' (List.mem_cons_of_mem op hop')

/-- Whether the channel that is selected is in a sidebar. -/
def keeps (v : View) (cs : List Entry) : Bool :=
  v.selected.any fun id => id ∈ cs.map (·.id)

/-- A view with another sidebar, in which what is selected stays selected if it is listed. -/
def furnish (v : View) (cs : List Entry) : View :=
  if v.keeps cs then { v with channels := cs } else ({ v with channels := cs } : View).setSelection none

/-- The selection that a new sidebar makes by itself: that of its first channel, unless the channel that is selected is
    in it. -/
def opening (v : View) (cs : List Entry) : List Operation :=
  if v.keeps cs then [] else cs.head?.toList.map fun e => .select e.id

theorem reflects_furnish (v : View) (cs : List Entry) : Reflects v cs [] (v.furnish cs) := by
  have hsame : cs = cs.map (entryAfter cs []) := (List.map_id cs).symm
  unfold furnish
  by_cases hk : v.keeps cs = true
  · rw [if_pos hk]
    obtain ⟨id, hid⟩ : ∃ id, (v.selected.filter fun id => id ∈ cs.map (·.id)) = some id := by
      rw [← Option.isSome_iff_exists, Option.isSome_filter]
      exact hk
    exact ⟨hsame, (Option.filter_eq_some_iff.mp hid).1.trans hid.symm, rfl, rfl⟩
  · rw [if_neg hk]
    have hnone : (v.selected.filter fun id => id ∈ cs.map (·.id)) = none := by
      rw [← Option.not_isSome_iff_eq_none, Option.isSome_filter]
      exact hk
    exact ⟨hsame, hnone.symm, rfl, rfl⟩

/-- **A new sidebar is put in and selects its first channel**, unless the channel that is selected is in it. -/
theorem replaceChannels_eq (v : View) (cs : List Entry) :
    v.replaceChannels cs = (v.furnish cs).performAll (v.opening cs) := by
  let v' : View := { v with channels := cs }
  have hkeeps : v.selected.any v'.lists = v.keeps cs := by
    unfold keeps
    congr 1
    funext id
    rw [Bool.eq_iff_iff, lists_iff, decide_eq_true_iff]
    rfl
  show (if v.selected.any v'.lists then v' else _) = _
  rw [hkeeps]
  unfold furnish opening
  by_cases hk : v.keeps cs = true
  · rw [if_pos hk, if_pos hk, if_pos hk]
    rfl
  · rw [if_neg hk, if_neg hk, if_neg hk]
    cases cs with
    | nil => rfl
    | cons first rest =>
        -- what was selected before is another channel, if any, so selecting the first one clears the screen
        have hmoved : v.selected ≠ some first.id := by
          intro hs
          refine hk ?_
          unfold keeps
          rw [hs]
          simp
        have hlisted : v'.lists first.id = true := lists_iff.mpr List.mem_cons_self
        have hlisted' : (v'.setSelection none).lists first.id = true := hlisted
        show v'.select first.id = (v'.setSelection none).select first.id
        unfold select
        rw [if_pos hlisted, if_pos hlisted']
        simp only []
        rw [if_neg (show ¬ (v'.setNotification first.id false).selected = some first.id from hmoved),
          if_neg (show ¬ ((v'.setSelection none).setNotification first.id false).selected = some first.id by
            simp [setSelection, setNotification])]
        rfl

/-- What a new sidebar does by itself is no new sidebar. -/
theorem installed?_opening (h : op ∈ v.opening cs) : op.installed? = none := by
  unfold opening at h
  split at h
  · exact absurd h List.not_mem_nil
  · obtain ⟨e, _, rfl⟩ := List.mem_map.mp h
    rfl

/-- **The view is its past.** Let a sidebar with distinct ids be put into any view, and let any operations follow but
    for another sidebar. Then the sidebar holds the entries that were put in, in their order, and of each only the flag
    and the presence may have changed: there is something new in a channel exactly if the last notice or selection of
    it, the selection that the new sidebar made by itself among them, was a notice, or there was neither and the entry
    was put in so; and a direct entry has the presence of the last update about its user, while all others keep
    theirs. The selection, whether live events arrive, and the status are those that were set last. -/
theorem reflects_past (v : View) {cs : List Entry} {ops : List Operation} (hcs : (cs.map (·.id)).Nodup)
    (hops : ∀ op ∈ ops, op.installed? = none) :
    Reflects v cs (v.opening cs ++ ops) ((v.replaceChannels cs).performAll ops) := by
  have hopen : Reflects v cs (v.opening cs) (v.replaceChannels cs) := by
    rw [replaceChannels_eq]
    exact (reflects_furnish v cs).performAll hcs fun op hop => installed?_opening hop
  exact hopen.performAll hcs hops

/-- Two channels in which there is something new, a direct conversation, and a group that has a user too. -/
def evening : List Entry :=
  [{ id := "C1", name := "lobby", kind := .channel, notification := true },
   { id := "C2", name := "random", kind := .channel, notification := true },
   { id := "G1", name := "staff", kind := .group, userId := "U1" },
   { id := "D1", name := "alice", kind := .direct, userId := "U1", presence := .away }]

/-- A notice for the channel that is selected, selections of another one and of none, and updates. -/
def eveningOps : List Operation :=
  [.apply (.notify "C1"), .select "C2", .select "nowhere", .apply (.presence "U1" .active), .apply (.notify "D1"),
   .selectByName "alice", .apply (.connection true "Connected"), .apply (.status "Receiving live events")]

/-- Behind them there is something new in the lobby alone, and alice is there. -/
theorem reflects_past_evening :
    (evening.map (·.id)).Nodup ∧ (∀ op ∈ eveningOps, op.installed? = none) ∧
    let v := (View.replaceChannels evening {}).performAll eveningOps
    v.channels =
      [{ id := "C1", name := "lobby", kind := .channel, notification := true },
       { id := "C2", name := "random", kind := .channel },
       { id := "G1", name := "staff", kind := .group, userId := "U1" },
       { id := "D1", name := "alice", kind := .direct, userId := "U1", presence := .active }] ∧
    v.selected = some "D1" ∧ v.live = true ∧ v.status = some "Receiving live events" := by
  have hcs : (evening.map (·.id)).Nodup := by decide
  have hops : ∀ op ∈ eveningOps, op.installed? = none := by simp [eveningOps, Operation.installed?]
  have h := reflects_past {} hcs hops
  refine ⟨hcs, hops, h.channels.trans ?_, h.selected.trans ?_, h.live.trans ?_, h.status.trans ?_⟩
  · decide
  · decide
  · decide
  · decide

end TeamChat.View
