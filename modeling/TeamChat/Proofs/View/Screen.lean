import TeamChat.Proofs.View.Selection

/-!
# `View.Showing`: what is on screen, and for which channel

The messages and threads on screen are those of the history that was accepted last. They go off the screen when
another channel is selected. An empty sidebar takes the selection away without that: what was on screen stays
(`messages_outlive_selection`), until there is a channel to select again. So whatever is on screen was accepted
for the channel that is selected, or for the one that was until the sidebar was emptied (`screen_of_reachable`).

## Contents
- `View.Effect`, `effect_perform`: all that an operation can do to what is on screen.
- `View.Showing`, `View.Abandoned`: where what is on screen comes from.
- `Showing.screen`, `Abandoned.screen`, `Reachable.screen`: what each of them says of a view.
- `messages_outlive_selection`, `screen_of_reachable`: the messages and the selection.
-/

namespace TeamChat.View

open Channel (Entry)

variable {v : View} {id : String}

/-! ## What is on screen -/

/-- Whether an operation puts a history on the screen. -/
def accepts (v : View) : Operation → Bool
  | .acceptHistory id _ _ => v.awaits id
  | _ => false

/-- Two views show the same messages and threads. -/
def SameScreen (v v' : View) : Prop :=
  v'.messages = v.messages ∧ v'.threads = v.threads

/-- Nothing is on screen. -/
def Blank (v : View) : Prop :=
  v.messages = [] ∧ v.threads = []

/-- **All that an operation can do to what is on screen.** A history is accepted for the channel that is
    selected; or the screen stays as it is, and so does the selection; or another channel is selected, and the
    screen is cleared; or the sidebar is emptied, and the screen stays as it is. -/
inductive Effect (v : View) : Operation → View → Prop
  | accepted {id messages threads v'} (awaited : v.selected = some id)
      (screen : v'.messages = messages ∧ v'.threads = threads) (selected : v'.selected = v.selected) :
      Effect v (.acceptHistory id messages threads) v'
  | kept {op v'} (refused : v.accepts op = false) (screen : SameScreen v v')
      (selected : v'.selected = v.selected) : Effect v op v'
  | cleared {op v'} (refused : v.accepts op = false) (screen : Blank v') (id : String)
      (moved : v.selected ≠ some id) (selected : v'.selected = some id) : Effect v op v'
  | emptied {v'} (screen : SameScreen v v') (selected : v'.selected = none) :
      Effect v (.replaceChannels []) v'

/-- Selecting a channel keeps the screen, or clears it for another channel. -/
theorem effect_select {op : Operation} (hr : v.accepts op = false) (id : String) :
    Effect v op (v.select id) := by
  have hs : (v.select id).selected = _ := selected_select
  by_cases hl : v.lists id = true
  · rw [if_pos hl] at hs
    by_cases hsel : v.selected = some id
    · refine .kept hr ?_ (hs.trans hsel.symm)
      unfold select
      have hsel' : (v.setNotification id false).selected = some id := hsel
      rw [if_pos hl]
      simp only [if_pos hsel']
      exact ⟨rfl, rfl⟩
    · refine .cleared hr ?_ id hsel hs
      unfold select
      have hsel' : ¬ (v.setNotification id false).selected = some id := hsel
      rw [if_pos hl]
      simp only [if_neg hsel']
      exact ⟨rfl, rfl⟩
  · rw [if_neg hl] at hs
    refine .kept hr ?_ hs
    unfold select
    rw [if_neg hl]
    exact ⟨rfl, rfl⟩

theorem effect_replaceChannels (channels : List Entry) :
    Effect v (.replaceChannels channels) (v.replaceChannels channels) := by
  let v' : View := { v with channels := channels }
  unfold replaceChannels
  by_cases hs : v.selected.any v'.lists = true
  · rw [if_pos hs]
    exact .kept rfl ⟨rfl, rfl⟩ rfl
  · rw [if_neg hs]
    cases channels with
    | nil => exact .emptied ⟨rfl, rfl⟩ rfl
    | cons first rest =>
        -- apart from its sidebar the view in which the first channel is selected is the one before
        have he : Effect v' (.replaceChannels (first :: rest)) (v'.select first.id) := effect_select rfl first.id
        cases he with
        | kept _ screen selected => exact .kept rfl screen selected
        | cleared _ screen id moved selected => exact .cleared rfl screen id moved selected

theorem effect_perform (v : View) (op : Operation) : Effect v op (v.perform op) := by
  cases op with
  | replaceChannels channels => exact effect_replaceChannels channels
  | select id => exact effect_select rfl id
  | selectByName name =>
      show Effect v _ (v.selectByName name)
      unfold selectByName
      cases v.channelNamed? name with
      | none => exact .kept rfl ⟨rfl, rfl⟩ rfl
      | some id => exact effect_select rfl id
  | apply u =>
      refine .kept rfl ?_ (selected_apply u)
      cases u <;> exact ⟨rfl, rfl⟩
  | acceptHistory id messages threads =>
      have hsel : (v.acceptHistory id messages threads).selected = v.selected :=
        selected_acceptHistory messages threads
      show Effect v _ (v.acceptHistory id messages threads)
      by_cases ha : v.awaits id = true
      · refine .accepted (of_decide_eq_true ha) ?_ hsel
        unfold acceptHistory
        rw [if_pos ha]
        exact ⟨rfl, rfl⟩
      · refine .kept (Bool.eq_false_iff.mpr ha) ?_ hsel
        unfold acceptHistory
        rw [if_neg ha]
        exact ⟨rfl, rfl⟩

/-! ## Where it comes from -/

/-- A history was accepted for a channel, no other one was accepted since, and the channel has been selected all
    the time. -/
inductive Showing (id : String) (messages : List Message) (threads : List Thread.Reference) : View → Prop
  | accepted {v : View} : Reachable v → v.selected = some id →
      Showing id messages threads (v.perform (.acceptHistory id messages threads))
  | next {v : View} (op : Operation) : Showing id messages threads v → v.accepts op = false →
      (v.perform op).selected = some id → Showing id messages threads (v.perform op)

/-- The sidebar was emptied while a history was on screen, and nothing has been selected since. -/
inductive Abandoned (id : String) (messages : List Message) (threads : List Thread.Reference) : View → Prop
  | emptied {v : View} : Showing id messages threads v →
      Abandoned id messages threads (v.perform (.replaceChannels []))
  | next {v : View} (op : Operation) : Abandoned id messages threads v → (v.perform op).selected = none →
      Abandoned id messages threads (v.perform op)

section Screen

variable {messages : List Message} {threads : List Thread.Reference}

theorem Showing.reachable (h : Showing id messages threads v) : Reachable v := by
  induction h with
  | accepted hv _ => exact .next _ hv
  | next op _ _ _ ih => exact .next op ih

theorem Abandoned.reachable (h : Abandoned id messages threads v) : Reachable v := by
  induction h with
  | emptied hs => exact .next _ hs.reachable
  | next op _ _ ih => exact .next op ih

/-- While its channel is selected, the history that was accepted last is on screen. -/
theorem Showing.screen (h : Showing id messages threads v) :
    v.selected = some id ∧ v.messages = messages ∧ v.threads = threads := by
  induction h with
  | @accepted v _ hs =>
      cases effect_perform v (.acceptHistory id messages threads) with
      | accepted _ screen selected => exact ⟨selected.trans hs, screen⟩
      | kept refused _ _ => exact absurd refused (by simp [accepts, awaits, hs])
      | cleared refused _ _ _ _ => exact absurd refused (by simp [accepts, awaits, hs])
  | @next v op _ hr hs ih =>
      obtain ⟨hsel, hm, ht⟩ := ih
      refine ⟨hs, ?_⟩
      cases effect_perform v op with
      | accepted awaited _ _ => exact absurd hr (by simp [accepts, awaits, awaited])
      | kept _ screen _ => exact ⟨screen.1.trans hm, screen.2.trans ht⟩
      | cleared _ _ id' moved selected => exact absurd (hsel.trans (hs.symm.trans selected)) moved
      | emptied _ selected => exact absurd (hs.symm.trans selected) (by simp)

/-- Behind an emptied sidebar the history stays on screen, although nothing is selected. -/
theorem Abandoned.screen (h : Abandoned id messages threads v) :
    v.selected = none ∧ v.messages = messages ∧ v.threads = threads := by
  induction h with
  | @emptied v hs =>
      obtain ⟨hsel, hm, ht⟩ := hs.screen
      have hnone : (v.perform (.replaceChannels [])).selected = none := by
        show (v.replaceChannels []).selected = none
        rw [selected_replaceChannels]
        simp
      refine ⟨hnone, ?_⟩
      cases effect_perform v (.replaceChannels []) with
      | kept _ screen _ => exact ⟨screen.1.trans hm, screen.2.trans ht⟩
      | cleared _ _ _ _ selected => exact absurd (hnone.symm.trans selected) (by simp)
      | emptied screen _ => exact ⟨screen.1.trans hm, screen.2.trans ht⟩
  | @next v op _ hnone ih =>
      obtain ⟨hsel, hm, ht⟩ := ih
      refine ⟨hnone, ?_⟩
      cases effect_perform v op with
      | accepted awaited _ _ => exact absurd (hsel.symm.trans awaited) (by simp)
      | kept _ screen _ => exact ⟨screen.1.trans hm, screen.2.trans ht⟩
      | cleared _ _ _ _ selected => exact absurd (hnone.symm.trans selected) (by simp)
      | emptied screen _ => exact ⟨screen.1.trans hm, screen.2.trans ht⟩

/-- Whatever is on screen was accepted for a channel that is still selected, or was until the sidebar was
    emptied. -/
theorem Reachable.screen (h : Reachable v) :
    Blank v ∨ ∃ id messages threads, Showing id messages threads v ∨ Abandoned id messages threads v := by
  induction h with
  | start => exact .inl ⟨rfl, rfl⟩
  | @next v op hv ih =>
      have kept (hs : SameScreen v (v.perform op)) (hsel : (v.perform op).selected = v.selected)
          (hr : v.accepts op = false) : Blank (v.perform op) ∨ ∃ id messages threads,
            Showing id messages threads (v.perform op) ∨ Abandoned id messages threads (v.perform op) := by
        rcases ih with hb | ⟨id, messages, threads, hshow | hleft⟩
        · exact .inl ⟨hs.1.trans hb.1, hs.2.trans hb.2⟩
        · exact .inr ⟨id, messages, threads, .inl (.next op hshow hr (hsel.trans hshow.screen.1))⟩
        · exact .inr ⟨id, messages, threads, .inr (.next op hleft (hsel.trans hleft.screen.1))⟩
      cases effect_perform v op with
      | accepted awaited _ _ => exact .inr ⟨_, _, _, .inl (.accepted hv awaited)⟩
      | kept hr screen selected => exact kept screen selected hr
      | cleared _ screen _ _ _ => exact .inl screen
      | emptied screen selected =>
          rcases ih with hb | ⟨id, messages, threads, hshow | hleft⟩
          · exact .inl ⟨screen.1.trans hb.1, screen.2.trans hb.2⟩
          · exact .inr ⟨id, messages, threads, .inr (.emptied hshow)⟩
          · exact .inr ⟨id, messages, threads, .inr (.next _ hleft selected)⟩

end Screen

/-! ## The messages and the selection -/

/-- A message that says hello. -/
def hello : Message := ⟨"100.000000", Stamp.instant "100.000000", "alice", "hello", "", []⟩

/-- A sidebar with one channel, and a message on screen. -/
def chatting : View :=
  (View.perform {} (.replaceChannels [{ id := "C1", name := "lobby", kind := .channel }])).perform
    (.acceptHistory "C1" [hello] [])

theorem showing_chatting : Showing "C1" [hello] [] chatting :=
  .accepted (.next _ .start) (by decide)

/-- **Messages outlive the selection**: once the sidebar is emptied, nothing is selected, and the messages of the
    channel that was selected before are still on screen. -/
theorem messages_outlive_selection :
    ¬ ∀ v : View, Reachable v → Blank v ∨ ∃ id messages threads, Showing id messages threads v ∧
      v.selected = some id ∧ v.messages = messages ∧ v.threads = threads := by
  intro h
  have hleft : Abandoned "C1" [hello] [] (chatting.perform (.replaceChannels [])) := .emptied showing_chatting
  obtain ⟨hnone, hm, _⟩ := hleft.screen
  rcases h _ hleft.reachable with hb | ⟨id, _, _, _, hs, _⟩
  · exact absurd (hm.symm.trans hb.1) (by simp)
  · exact absurd (hnone.symm.trans hs) (by simp)

/-- **What is on screen** in a view that operations lead to: nothing, or the history that was accepted last. If a
    channel is selected, the history was accepted for that channel, which has been selected since then. If none
    is, the history was accepted for the channel that was selected until the sidebar was emptied. -/
theorem screen_of_reachable (h : Reachable v) :
    (Blank v ∨ ∃ id messages threads, Showing id messages threads v ∨ Abandoned id messages threads v) ∧
    (∀ id messages threads, Showing id messages threads v →
      v.selected = some id ∧ v.messages = messages ∧ v.threads = threads) ∧
    ∀ id messages threads, Abandoned id messages threads v →
      v.selected = none ∧ v.channels = [] ∧ v.messages = messages ∧ v.threads = threads := by
  refine ⟨h.screen, ?_, ?_⟩
  · intro id messages threads hshow
    exact hshow.screen
  · intro id messages threads hleft
    obtain ⟨hnone, hscreen⟩ := hleft.screen
    have hids : v.ids = [] := h.anchored.none_iff.mp hnone
    exact ⟨hnone, List.map_eq_nil_iff.mp hids, hscreen⟩

/-- The sidebar is emptied, and updates still arrive: the message stays on screen. -/
theorem screen_of_emptied :
    let v := (chatting.perform (.replaceChannels [])).perform (.apply (.status "Connected"))
    v.Reachable ∧ Abandoned "C1" [hello] [] v ∧ v.selected = none ∧ v.channels = [] ∧ v.messages = [hello] ∧
      v.threads = [] := by
  intro v
  have hleft : Abandoned "C1" [hello] [] v := .next _ (.emptied showing_chatting) (by decide)
  exact ⟨hleft.reachable, hleft, (screen_of_reachable hleft.reachable).2.2 _ _ _ hleft⟩

end TeamChat.View
