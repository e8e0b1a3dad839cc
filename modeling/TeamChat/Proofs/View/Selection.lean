import TeamChat.Proofs.View.Reachable

/-!
# `View.Anchored`: the selection and the sidebar

The selection is held twice, by the view and by whoever follows it, and the sidebar to which it belongs is
replaced as a whole. Every operation keeps the three in step (`Anchored.perform`), whatever ids the lists
hold: empty ones, ones that occur twice, and ones that were there before and are gone.

## Contents
- `selected_select`, `selected_selectByName`, `selected_replaceChannels`: the selection behind each operation.
- `View.Anchored`, `Anchored.perform`: the selection, what is told of it, and the sidebar in step.
- `selection_anchored`: the selection in every view that operations lead to.
-/

namespace TeamChat.View

open Channel (Entry)

variable {v : View} {id name : String}

/-! ## The selection behind each operation -/

theorem lists_iff : v.lists id = true ↔ id ∈ v.ids := by
  simp [lists, ids]

/-- Selecting succeeds exactly if the channel is in the sidebar. -/
theorem selected_select : (v.select id).selected = if v.lists id then some id else v.selected := by
  unfold select
  by_cases hl : v.lists id = true
  · rw [if_pos hl, if_pos hl]
    by_cases hs : (v.setNotification id false).selected = some id
    · simp [hs]
    · simp [hs, setSelection]
  · rw [if_neg hl, if_neg hl]

theorem lists_of_channelNamed? (h : v.channelNamed? name = some id) : v.lists id = true := by
  unfold channelNamed? at h
  obtain ⟨e, he, hid⟩ := Option.map_eq_some_iff.mp h
  have hmem : e ∈ v.channels := List.mem_of_find?_eq_some he
  rw [lists_iff]
  exact List.mem_map.mpr ⟨e, hmem, hid⟩

theorem selected_selectByName :
    (v.selectByName name).selected = (v.channelNamed? name).or v.selected := by
  unfold selectByName
  cases hn : v.channelNamed? name with
  | none => rfl
  | some id =>
      have hl : v.lists id = true := lists_of_channelNamed? hn
      rw [selected_select, if_pos hl]
      rfl

/-- A selection that is still listed survives a new list; otherwise the first channel is selected, if there is
    one. -/
theorem selected_replaceChannels (channels : List Entry) :
    (v.replaceChannels channels).selected =
      (v.selected.filter fun id => id ∈ channels.map (·.id)).or (channels.head?.map (·.id)) := by
  let v' : View := { v with channels := channels }
  have hlists : v'.lists = fun id => decide (id ∈ channels.map (·.id)) := by
    funext id
    rw [Bool.eq_iff_iff, lists_iff, decide_eq_true_iff]
    rfl
  have hkept : v.selected.any v'.lists = (v.selected.filter fun id => id ∈ channels.map (·.id)).isSome := by
    rw [hlists, Option.isSome_filter]
  unfold replaceChannels
  by_cases hs : v.selected.any v'.lists = true
  · have hf := hkept.symm.trans hs
    obtain ⟨id, hid⟩ := Option.isSome_iff_exists.mp hf
    rw [if_pos hs, hid]
    exact (Option.filter_eq_some_iff.mp hid).1
  · have hf : (v.selected.filter fun id => id ∈ channels.map (·.id)) = none := by
      rwa [hkept, Option.not_isSome_iff_eq_none] at hs
    rw [if_neg hs, hf, Option.none_or]
    cases channels with
    | nil => rfl
    | cons first rest =>
        have hl : v'.lists first.id = true := by
          rw [hlists]
          simp
        show (v'.select first.id).selected = _
        rw [selected_select, if_pos hl]
        rfl

theorem selected_acceptHistory (messages : List Message) (threads : List Thread.Reference) :
    (v.acceptHistory id messages threads).selected = v.selected := by
  unfold acceptHistory
  split <;> rfl

/-! ## The selection and the sidebar -/

/-- The selection is told as it is; there is one exactly if there are channels; and it is one of them. -/
structure Anchored (v : View) : Prop where
  watched : v.watched = v.selected
  none_iff : v.selected = none ↔ v.ids = []
  listed : ∀ id, v.selected = some id → id ∈ v.ids

namespace Anchored

theorem start : Anchored {} where
  watched := rfl
  none_iff := iff_of_true rfl rfl
  listed _ h := absurd h (by simp)

/-- In a sidebar with the same channels the selection may stay, or move to one of them. -/
theorem move {v' : View} (h : Anchored v) (hw : v'.watched = v'.selected) (hids : v'.ids = v.ids)
    (hs : v'.selected = v.selected ∨ ∃ id ∈ v.ids, v'.selected = some id) : Anchored v' := by
  rcases hs with hs | ⟨id, hid, hs⟩
  · refine ⟨hw, ?_, ?_⟩
    · rw [hs, hids]
      exact h.none_iff
    · intro id hid
      rw [hs] at hid
      rw [hids]
      exact h.listed id hid
  · refine ⟨hw, ?_, ?_⟩
    · rw [hs, hids]
      have hne : v.ids ≠ [] := List.ne_nil_of_mem hid
      simp [hne]
    · intro id' hid'
      rw [hs] at hid'
      rw [hids, ← Option.some.inj hid']
      exact hid

/-- A new sidebar selects one of its channels, if it has any. -/
theorem replaceChannels (h : Anchored v) (channels : List Entry) : Anchored (v.replaceChannels channels) := by
  refine ⟨watched_replaceChannels h.watched, ?_, ?_⟩
  · rw [selected_replaceChannels, ids_replaceChannels]
    cases channels with
    | nil => simp
    | cons first rest => simp
  · intro id hid
    rw [selected_replaceChannels, Option.or_eq_some_iff] at hid
    rw [ids_replaceChannels]
    rcases hid with hid | ⟨_, hid⟩
    · exact of_decide_eq_true (Option.filter_eq_some_iff.mp hid).2
    · obtain ⟨e, he, rfl⟩ := Option.map_eq_some_iff.mp hid
      exact List.mem_map_of_mem (List.mem_of_head? he)

/-- **Every operation keeps the selection in step with the sidebar.** -/
theorem perform (h : Anchored v) (op : Operation) : Anchored (v.perform op) := by
  have hw : (v.perform op).watched = (v.perform op).selected := watched_perform h.watched op
  cases op with
  | replaceChannels channels => exact h.replaceChannels channels
  | select id =>
      refine h.move hw ids_select ?_
      show (v.select id).selected = _ ∨ ∃ i ∈ v.ids, (v.select id).selected = some i
      rw [selected_select]
      by_cases hl : v.lists id = true
      · rw [if_pos hl]
        exact .inr ⟨id, lists_iff.mp hl, rfl⟩
      · rw [if_neg hl]
        exact .inl rfl
  | selectByName name =>
      refine h.move hw (ids_selectByName name) ?_
      show (v.selectByName name).selected = _ ∨ ∃ i ∈ v.ids, (v.selectByName name).selected = some i
      rw [selected_selectByName]
      cases hn : v.channelNamed? name with
      | none => exact .inl rfl
      | some id => exact .inr ⟨id, lists_iff.mp (lists_of_channelNamed? hn), rfl⟩
  | apply u => exact h.move hw (ids_apply u) (.inl (selected_apply u))
  | acceptHistory id messages threads =>
      exact h.move hw (ids_acceptHistory messages threads) (.inl (selected_acceptHistory messages threads))

end Anchored

theorem Reachable.anchored (h : Reachable v) : Anchored v := by
  induction h with
  | start => exact .start
  | next op _ ih => exact ih.perform op

/-- **The selection is tied to the sidebar** in every view that operations lead to. It is told as it is; there is
    none exactly if there are no channels; and the channel that is selected has an entry. A channel that is in
    the sidebar, or is the first one of its name, is selected when it is asked for; asking for any other changes
    nothing at all. -/
theorem selection_anchored (h : Reachable v) :
    v.watched = v.selected ∧
    (v.selected = none ↔ v.channels = []) ∧
    (∀ id, v.selected = some id → ∃ e ∈ v.channels, e.id = id ∧ v.selectedEntry? = some e) ∧
    (∀ id, (v.lists id = true → (v.select id).selected = some id) ∧ (v.lists id = false → v.select id = v)) ∧
    ∀ name, (∀ id, v.channelNamed? name = some id → (v.selectByName name).selected = some id) ∧
      (v.channelNamed? name = none → v.selectByName name = v) := by
  have ha := h.anchored
  refine ⟨ha.watched, ?_, ?_, ?_, ?_⟩
  · rw [ha.none_iff]
    exact List.map_eq_nil_iff
  · intro id hid
    obtain ⟨e, he, hn⟩ := List.mem_map.mp (ha.listed id hid)
    have hf : (v.channels.find? fun c => c.id = id).isSome = true := by
      rw [List.find?_isSome]
      exact ⟨e, he, decide_eq_true hn⟩
    obtain ⟨found, hfound⟩ := Option.isSome_iff_exists.mp hf
    refine ⟨found, List.mem_of_find?_eq_some hfound, ?_, ?_⟩
    · have hp := List.find?_some hfound
      exact of_decide_eq_true hp
    · unfold selectedEntry?
      rw [hid]
      exact hfound
  · intro id
    constructor
    · intro hl
      rw [selected_select, if_pos hl]
    · intro hl
      unfold select
      rw [if_neg (by simp [hl])]
  · intro name
    constructor
    · intro id hn
      rw [selected_selectByName, hn]
      rfl
    · intro hn
      unfold selectByName
      rw [hn]

/-- Two channels with the same id, which is empty. -/
def twins : List Entry :=
  [{ id := "", name := "general", kind := .channel }, { id := "", name := "random", kind := .channel }]

/-- The channel that was selected is gone, and the second of two with an empty id is asked for by its name. -/
theorem selection_anchored_twins :
    let v := ((View.perform {} (.replaceChannels [{ id := "C1", name := "lobby", kind := .channel }])).perform
      (.replaceChannels twins)).perform (.selectByName "random")
    v.Reachable ∧ v.watched = some "" ∧ ∃ e ∈ v.channels, e.id = "" ∧ v.selectedEntry? = some e := by
  intro v
  have hv : v.Reachable := .next _ (.next _ (.next _ .start))
  obtain ⟨hw, _, hl, _⟩ := selection_anchored hv
  have hs : v.selected = some "" := by decide
  exact ⟨hv, hw.trans hs, hl "" hs⟩

end TeamChat.View
