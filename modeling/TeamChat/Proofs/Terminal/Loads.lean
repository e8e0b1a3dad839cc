import TeamChat.Proofs.View.Screen
import TeamChat.Terminal

/-!
# `Terminal.Loads`: histories that are loaded at the same time

A history is loaded in the background: after the start, after a switch, after an update of the channel on screen,
after something was sent. So several loads of one channel may be under way at once, and they end in any order.
The view looks at the channel of a result and at nothing else: it takes the result of a load exactly if the
channel is selected by then. What is on screen is therefore the history of the load that *ended* last, not of the
one that was *started* last, and a load that was overtaken by a later one puts the older history back
(`older_history_returns`). Only such a load can: a channel whose loads end in the order in which they were started
never goes backwards (`goes_back_only_if_overtaken`).

## Contents
- `Load`, `Loads`, `Loads.Move`, `Loads.run`: the terminal with the loads that are under way.
- `Loads.Sound`, `Loads.sound_run`: the order of the loads, and whose history is on screen.
- `Loads.later_or_overtaken`: which loads are under way later on.
- `older_history_returns`, `goes_back_only_if_overtaken`: what the result of a load is put in the place of.
-/

namespace TeamChat.Terminal

/-- A history that is being loaded, with its place among all loads in the order of their start. -/
structure Load where
  number : Nat
  channel : String
deriving DecidableEq, Repr

/-- The view, and the loads that are under way, in the order in which they were started. -/
structure Loads where
  view : View
  started : Nat := 0
  underway : List Load := []
  /-- The load whose history is on screen, with that history. -/
  shown : Option (Load × History) := none

namespace Loads

/-! ## The terminal with its loads -/

/-- What the terminal reacts to. -/
inductive Move
  | line (text : String)
  | update (u : Live.Update)
  | listed (channels : List Channel.Entry)
  | sent (channel : String)
  | failed (operation message : String)
  /-- A load ends; `i` is its place among those under way. -/
  | ended (i : Nat) (result : Except ClientError History)

/-- The channel whose history a job loads. -/
def wanted? : Job → Option String
  | .loadHistory channel => some channel
  | _ => none

/-- Starts a load. -/
def start (s : Loads) (channel : String) : Loads :=
  { s with started := s.started + 1, underway := s.underway ++ [⟨s.started, channel⟩] }

/-- Starts the loads that are asked for. -/
def startAll (jobs : List Job) (s : Loads) : Loads :=
  (jobs.filterMap wanted?).foldl start s

/-- The view changes. What is on screen stays as long as the selection does. -/
def turn (v : View) (s : Loads) : Loads :=
  { s with view := v, shown := if v.selected = s.view.selected then s.shown else none }

def follow (r : Reaction) (s : Loads) : Loads :=
  (s.turn r.view).startAll r.jobs

/-- What the result of a load puts on the screen. -/
def taken? (v : View) (load : Load) : Except ClientError History → Option (Load × History)
  | .ok history => if v.awaits load.channel then some (load, history) else none
  | .error _ => none

/-- A load ends, and its outcome is handled. -/
def finish (i : Nat) (result : Except ClientError History) (s : Loads) : Loads :=
  match s.underway[i]? with
  | none => s
  | some load =>
    { s with
      view := (onOutcome s.view
        (Service.outcome "load_history" (.historyLoaded load.channel) result)).view
      underway := s.underway.eraseIdx i
      shown := (taken? s.view load result).or s.shown }

def apply (s : Loads) : Move → Loads
  | .line text => s.follow (onLine s.view text)
  | .update u => s.follow (onUpdate s.view u)
  | .listed channels => s.follow (onOutcome s.view (.channelsLoaded channels))
  | .sent channel => s.follow (onOutcome s.view (.sent channel))
  | .failed operation message => s.follow (onOutcome s.view (.failed operation message))
  | .ended i result => s.finish i result

/-- The terminal after some moves. -/
def run (s : Loads) (moves : List Move) : Loads :=
  moves.foldl apply s

/-- The terminal with its first list of channels. -/
def opening (channels : List Channel.Entry) : Loads :=
  startAll (onStart channels).jobs { view := (onStart channels).view }

variable {s : Loads} {k l : Load}

/-- What every move preserves, every run preserves. -/
theorem run_invariant {I : Loads → Prop} (step : ∀ s m, I s → I (s.apply m)) (h : I s) (moves : List Move) :
    I (s.run moves) := by
  induction moves generalizing s with
  | nil => exact h
  | cons m rest ih => exact ih (step s m h)

/-! ## Reactions and the screen -/

/-- As long as a channel stays selected, its history stays on screen. -/
def Keeps (v v' : View) : Prop :=
  ∀ id, v.selected = some id → v'.selected = some id → View.SameScreen v v'

theorem keeps_refl (v : View) : Keeps v v :=
  fun _ _ _ => ⟨rfl, rfl⟩

/-- Whatever does not bring a history keeps the one that is on screen, or moves the selection. -/
theorem keeps_perform {v : View} {op : View.Operation} (h : v.accepts op = false) :
    Keeps v (v.perform op) := by
  intro id hv hv'
  -- a screen that is cleared or emptied goes with a selection that has moved
  cases View.effect_perform v op with
  | accepted awaited _ _ => exact absurd h (by simp [View.accepts, View.awaits, awaited])
  | kept _ screen _ => exact screen
  | cleared _ _ other moved selected => exact absurd (hv.trans (hv'.symm.trans selected)) moved
  | emptied _ selected => exact absurd (hv'.symm.trans selected) (by simp)

theorem keeps_onLine (v : View) (line : String) : Keeps v (onLine v line).view := by
  unfold onLine
  simp only
  split
  · exact keeps_refl v
  · split
    · next name _ =>
        unfold switch
        split
        · exact keeps_refl v
        · show Keeps v (v.perform (.selectByName name))
          exact keeps_perform rfl
    · split
      · exact keeps_refl v
      · split
        · exact keeps_refl v
        · split
          · exact keeps_refl v
          · split
            · exact keeps_refl v
            · exact keeps_refl v

/-! ## What every run preserves -/

/-- The loads under way stand in the order of their start. The history on screen is that of a load of the
    selected channel, which is over. -/
structure Sound (s : Loads) : Prop where
  sorted : s.underway.Pairwise fun l l' => l.number < l'.number
  below : ∀ l ∈ s.underway, l.number < s.started
  screen : ∀ load history, s.shown = some (load, history) → s.view.selected = some load.channel ∧
    s.view.messages = history.messages ∧ s.view.threads = history.threads

theorem Sound.start (h : Sound s) (channel : String) : Sound (s.start channel) := by
  refine ⟨?_, ?_, h.screen⟩
  · show (s.underway ++ [_]).Pairwise _
    rw [List.pairwise_append]
    refine ⟨h.sorted, List.pairwise_singleton _ _, ?_⟩
    intro l hl l' hl'
    rw [List.mem_singleton.mp hl']
    exact h.below l hl
  · intro l hl
    show l.number < s.started + 1
    rcases List.mem_append.mp hl with hl | hl
    · exact Nat.lt_succ_of_lt (h.below l hl)
    · rw [List.mem_singleton.mp hl]
      exact Nat.lt_succ_self _

theorem Sound.startAll (h : Sound s) (jobs : List Job) : Sound (s.startAll jobs) := by
  unfold Loads.startAll
  induction jobs.filterMap wanted? generalizing s with
  | nil => exact h
  | cons channel rest ih => exact ih (h.start channel)

theorem Sound.turn {v : View} (h : Sound s) (hv : Keeps s.view v) : Sound (s.turn v) := by
  refine ⟨h.sorted, h.below, ?_⟩
  intro load history hshown
  unfold Loads.turn at hshown
  by_cases hsel : v.selected = s.view.selected
  · simp only [if_pos hsel] at hshown
    obtain ⟨hs, hm, ht⟩ := h.screen load history hshown
    obtain ⟨hm', ht'⟩ := hv load.channel hs (hsel.trans hs)
    exact ⟨hsel.trans hs, hm'.trans hm, ht'.trans ht⟩
  · simp only [if_neg hsel] at hshown
    cases hshown

theorem Sound.follow {r : Reaction} (h : Sound s) (hr : Keeps s.view r.view) : Sound (s.follow r) :=
  (h.turn hr).startAll r.jobs

/-! ### The end of a load -/

/-- The view behind the end of a load. -/
theorem view_finish {i : Nat} {result : Except ClientError History} (hi : s.underway[i]? = some l) :
    (s.finish i result).view =
      match result with
      | .ok history => s.view.acceptHistory l.channel history.messages history.threads
      | .error _ => s.view := by
  unfold finish
  rw [hi]
  cases result with
  | ok history => rfl
  | error e => rfl

/-- A result for the selected channel is put on the screen, whatever is there. -/
theorem finish_of_selected {i : Nat} (history : History) (hi : s.underway[i]? = some l)
    (hs : s.view.selected = some l.channel) :
    (s.finish i (.ok history)).shown = some (l, history) ∧
      (s.finish i (.ok history)).view =
        { s.view with messages := history.messages, threads := history.threads } := by
  have ha : s.view.awaits l.channel = true := decide_eq_true hs
  constructor
  · unfold finish
    rw [hi]
    simp only [taken?, if_pos ha, Option.some_or]
  · rw [view_finish hi]
    simp only [View.acceptHistory, if_pos ha]

/-- A result for any other channel changes nothing on the screen. -/
theorem finish_of_not_selected {i : Nat} (history : History) (hi : s.underway[i]? = some l)
    (hs : s.view.selected ≠ some l.channel) :
    (s.finish i (.ok history)).shown = s.shown ∧ (s.finish i (.ok history)).view = s.view := by
  have ha : ¬ s.view.awaits l.channel = true := by simpa [View.awaits] using hs
  constructor
  · unfold finish
    rw [hi]
    simp only [taken?, if_neg ha, Option.none_or]
  · rw [view_finish hi]
    simp only [View.acceptHistory, if_neg ha]

theorem underway_finish {i : Nat} (result : Except ClientError History) (hi : s.underway[i]? = some l) :
    (s.finish i result).underway = s.underway.eraseIdx i := by
  unfold finish
  rw [hi]

theorem started_finish (i : Nat) (result : Except ClientError History) :
    (s.finish i result).started = s.started := by
  unfold finish
  cases s.underway[i]? with
  | none => rfl
  | some load => rfl

theorem Sound.finish (h : Sound s) (i : Nat) (result : Except ClientError History) :
    Sound (s.finish i result) := by
  cases hi : s.underway[i]? with
  | none =>
      unfold Loads.finish
      rw [hi]
      exact h
  | some l =>
      have erased := List.eraseIdx_sublist s.underway i
      refine ⟨?_, ?_, ?_⟩
      · rw [underway_finish result hi]
        exact h.sorted.sublist erased
      · rw [underway_finish result hi, started_finish]
        intro l' hl'
        exact h.below l' (erased.subset hl')
      · cases result with
        | error e =>
            rw [view_finish hi]
            have hshown : (s.finish i (.error e)).shown = s.shown := by
              unfold Loads.finish
              rw [hi]
              rfl
            rw [hshown]
            exact h.screen
        | ok history =>
            by_cases hs : s.view.selected = some l.channel
            · obtain ⟨hshown, hview⟩ := finish_of_selected history hi hs
              rw [hshown, hview]
              intro load history' heq
              cases heq
              exact ⟨hs, rfl, rfl⟩
            · obtain ⟨hshown, hview⟩ := finish_of_not_selected history hi hs
              rw [hshown, hview]
              exact h.screen

/-- **One move** keeps the order of the loads, and whose history is on screen. -/
theorem Sound.apply (h : Sound s) (m : Move) : Sound (s.apply m) := by
  cases m with
  | line text => exact h.follow (keeps_onLine s.view text)
  | update u =>
      have hk : Keeps s.view (s.view.perform (.apply u)) := keeps_perform rfl
      exact h.follow hk
  | listed channels =>
      have hk : Keeps s.view (s.view.perform (.replaceChannels channels)) := keeps_perform rfl
      exact h.follow hk
  | sent channel => exact h.follow (keeps_refl s.view)
  | failed operation message => exact h.follow (keeps_refl s.view)
  | ended i result => exact h.finish i result

theorem sound_opening (channels : List Channel.Entry) : Sound (opening channels) := by
  refine Sound.startAll ⟨List.Pairwise.nil, ?_, ?_⟩ _
  · intro l hl
    cases hl
  · intro load history hshown
    cases hshown

theorem sound_run (channels : List Channel.Entry) (moves : List Move) : Sound ((opening channels).run moves) :=
  run_invariant (fun _ m h => h.apply m) (sound_opening channels) moves

/-! ## Which loads are under way later -/

/-- Whatever is under way was under way before, or was started since. -/
def Since (s t : Loads) : Prop :=
  s.started ≤ t.started ∧ ∀ l ∈ t.underway, l ∈ s.underway ∨ s.started ≤ l.number

theorem Since.refl (s : Loads) : Since s s :=
  ⟨Nat.le_refl _, fun _ hl => .inl hl⟩

theorem Since.trans {t u : Loads} (h : Since s t) (h' : Since t u) : Since s u := by
  refine ⟨Nat.le_trans h.1 h'.1, fun l hl => ?_⟩
  rcases h'.2 l hl with hl | hn
  · exact h.2 l hl
  · exact .inr (Nat.le_trans h.1 hn)

theorem since_start (channel : String) : Since s (s.start channel) := by
  refine ⟨Nat.le_succ _, fun l hl => ?_⟩
  rcases List.mem_append.mp hl with hl | hl
  · exact .inl hl
  · rw [List.mem_singleton.mp hl]
    exact .inr (Nat.le_refl _)

theorem since_startAll (jobs : List Job) : Since s (s.startAll jobs) := by
  unfold startAll
  induction jobs.filterMap wanted? generalizing s with
  | nil => exact Since.refl s
  | cons channel rest ih => exact (since_start channel).trans ih

theorem since_follow (r : Reaction) : Since s (s.follow r) := by
  have turned : Since s (s.turn r.view) := ⟨Nat.le_refl _, fun _ hl => .inl hl⟩
  exact turned.trans (since_startAll r.jobs)

theorem since_finish (i : Nat) (result : Except ClientError History) : Since s (s.finish i result) := by
  refine ⟨Nat.le_of_eq (started_finish i result).symm, fun l hl => .inl ?_⟩
  cases hi : s.underway[i]? with
  | none =>
      unfold finish at hl
      rwa [hi] at hl
  | some load =>
      rw [underway_finish result hi] at hl
      exact List.mem_of_mem_eraseIdx hl

theorem since_apply (m : Move) : Since s (s.apply m) := by
  cases m with
  | line text => exact since_follow _
  | update u => exact since_follow _
  | listed channels => exact since_follow _
  | sent channel => exact since_follow _
  | failed operation message => exact since_follow _
  | ended i result => exact since_finish i result

theorem since_run (moves : List Move) : Since s (s.run moves) :=
  run_invariant (I := Since s) (fun _ m h => h.trans (since_apply m)) (Since.refl s) moves

/-- Once a load has ended, any other one that is under way later was started after it, or had been started
    before it and was overtaken. -/
theorem later_or_overtaken (h : Sound s) {i : Nat} {result : Except ClientError History}
    (hi : s.underway[i]? = some k) {moves : List Move} (hl : l ∈ ((s.finish i result).run moves).underway) :
    k.number < l.number ∨ l.number < k.number ∧ l ∈ s.underway := by
  obtain ⟨hlt, hk⟩ := List.getElem?_eq_some_iff.mp hi
  rcases (since_run moves).2 l hl with hmem | hnew
  · -- the loads stand in the order of their start, so the place in the list tells which of two was first
    rw [underway_finish result hi] at hmem
    obtain ⟨j, hj, hne, rfl⟩ := List.mem_eraseIdx_iff_getElem.mp hmem
    have sorted := List.pairwise_iff_getElem.mp h.sorted
    rcases Nat.lt_or_gt_of_ne hne with hji | hij
    · refine .inr ⟨?_, List.getElem_mem hj⟩
      rw [← hk]
      exact sorted j i hj hlt hji
    · refine .inl ?_
      rw [← hk]
      exact sorted i j hlt hj hij
  · rw [started_finish] at hnew
    exact .inl (Nat.lt_of_lt_of_le (h.below k (hk ▸ List.getElem_mem hlt)) hnew)

/-! ## What the result of a load is put in the place of -/

/-- A channel that is on screen from the start on. -/
def lobby : Channel.Entry := { id := "C1", name := "lobby", kind := .channel }

/-- The reply to a message that says hello. -/
def reply : Message := ⟨"101.000000", Stamp.instant "101.000000", "bob", "hello alice", "", []⟩

/-- The history of the channel before and after the reply. -/
def historyBefore : History := ⟨[View.hello], []⟩

def historyAfter : History := ⟨[View.hello, reply], []⟩

/-- **A load that was overtaken puts the older history back.** The first load of the channel is still under way when
    the reply arrives. The load that the reply asks for ends first and shows it; then the first one ends, and the
    reply is gone. -/
theorem older_history_returns :
    ¬ ∀ (channels : List Channel.Entry) (moves : List Move) (i : Nat) (k l : Load) (history older : History),
      ((opening channels).run moves).shown = some (k, history) →
      ((opening channels).run moves).underway[i]? = some l → l.channel = k.channel → l.number < k.number →
      (((opening channels).run moves).apply (.ended i (.ok older))).view.messages = history.messages := by
  intro h
  have kept := h [lobby] [.update (.reloadHistory "C1"), .ended 1 (.ok historyAfter)] 0 ⟨1, "C1"⟩ ⟨0, "C1"⟩
    historyAfter historyBefore rfl rfl rfl (by decide)
  have back : [View.hello] = [View.hello, reply] := kept
  exact absurd (congrArg List.length back) (by decide)

/-- **Only a load that was overtaken takes a channel back.** While the history of a load `k` is on screen, the result
    of any load of the channel takes its place, and no other result does. A load that was started before `k` can do
    so only if it was under way when `k` ended. So if no older load of the channel was under way by then, all the
    results that can take the place are of loads that were started later. -/
theorem goes_back_only_if_overtaken (channels : List Channel.Entry) (moves later : List Move) {i : Nat}
    {history : History} (hk : ((opening channels).run moves).underway[i]? = some k)
    (hshown : ((((opening channels).run moves).apply (.ended i (.ok history))).run later).shown =
      some (k, history)) :
    let s := (opening channels).run moves
    let t := (s.apply (.ended i (.ok history))).run later
    (t.view.selected = some k.channel ∧ t.view.messages = history.messages ∧
      t.view.threads = history.threads) ∧
    (∀ j l, t.underway[j]? = some l →
      (k.number < l.number ∨ l.number < k.number ∧ l ∈ s.underway) ∧
      (∀ e, (t.apply (.ended j (.error e))).view = t.view) ∧
      ∀ other : History, (t.apply (.ended j (.ok other))).view =
        if l.channel = k.channel then { t.view with messages := other.messages, threads := other.threads }
        else t.view) ∧
    ((∀ l ∈ s.underway, l.channel = k.channel → k.number ≤ l.number) →
      ∀ l ∈ t.underway, l.channel = k.channel → k.number < l.number) := by
  intro s t
  have hs : Sound s := sound_run channels moves
  have ht : Sound t := run_invariant (fun _ m h => h.apply m) (hs.apply _) later
  have screen := ht.screen k history hshown
  have order : ∀ l ∈ t.underway, k.number < l.number ∨ l.number < k.number ∧ l ∈ s.underway :=
    fun l hl => later_or_overtaken hs hk hl
  refine ⟨screen, ?_, ?_⟩
  · intro j l hj
    refine ⟨order l (List.mem_of_getElem? hj), ?_, ?_⟩
    · intro e
      exact view_finish hj
    · intro other
      by_cases hc : l.channel = k.channel
      · rw [if_pos hc]
        exact (finish_of_selected other hj (hc ▸ screen.1)).2
      · rw [if_neg hc]
        refine (finish_of_not_selected other hj ?_).2
        rw [screen.1]
        exact fun heq => hc (Option.some.inj heq).symm
  · intro none_older l hl hc
    rcases order l hl with hlt | ⟨hlt, hmem⟩
    · exact hlt
    · exact absurd (none_older l hmem hc) (Nat.not_le.mpr hlt)

/-- The load that shows the reply overtakes the first one, and a notice from another channel comes in between. -/
theorem goes_back_in_lobby :
    let s := (opening [lobby]).run [.update (.reloadHistory "C1")]
    let t := (s.apply (.ended 1 (.ok historyAfter))).run [.update (.notify "C2")]
    s.underway[1]? = some ⟨1, "C1"⟩ ∧ t.shown = some (⟨1, "C1"⟩, historyAfter) ∧
      t.view.messages = [View.hello, reply] ∧ ⟨0, "C1"⟩ ∈ s.underway ∧
      (t.apply (.ended 0 (.ok historyBefore))).view =
        { t.view with messages := [View.hello], threads := [] } := by
  intro s t
  have hk : s.underway[1]? = some ⟨1, "C1"⟩ := rfl
  have hshown : t.shown = some (⟨1, "C1"⟩, historyAfter) := rfl
  obtain ⟨⟨_, screen, _⟩, ended, _⟩ :=
    goes_back_only_if_overtaken [lobby] [.update (.reloadHistory "C1")] [.update (.notify "C2")] hk hshown
  obtain ⟨order, _, back⟩ := ended 0 ⟨0, "C1"⟩ rfl
  rcases order with hlt | ⟨_, hmem⟩
  · exact absurd hlt (by decide)
  · exact ⟨hk, hshown, screen, hmem, back historyBefore⟩

end Loads

end TeamChat.Terminal
