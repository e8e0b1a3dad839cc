import Mathlib.Data.List.Perm.Basic
import TeamChat.Proofs.Limiter.Run

/-!
# `Limiter.Schedule`: callers who contend for tokens

Between falling asleep and waking of one caller any number of others come, are admitted, fall asleep, wake and
give up. None of that hurts the bucket: while anybody sleeps it is empty between moves, because less than two
intervals have passed since the marker, so that a refill brings one token at most, and whoever causes it takes
that token. Nobody is lost: who came was admitted at once or an interval later, is still asleep, or gave up. And a
caller who gives up might as well not have come.

All of this relies on the timer: a sleep for an interval lasts for an interval (`Rate.Punctual`).

## Contents
- `Schedule.Sound`: what every move preserves.
- `Schedule.came`, `Schedule.left`, `tally_perm`: nobody is lost.
- `Schedule.wakings`, `permits_wakings`: everybody who sleeps can be waited for.
- `GivesUp`, `others`, `run_others`: the run without a caller who gives up.
- `safe_under_contention`: the statements together.
-/

namespace TeamChat.Limiter.Schedule

variable {s : Schedule} {moves : List Move}

/-! ## What moves preserve -/

/-- While anybody sleeps the bucket is empty, and the marker is less than an interval behind the instant at
    which any sleeper fell asleep. Nobody oversleeps, and sleepers are in the order in which they fell asleep.
    Who was admitted had slept for exactly one sleep, or not at all. -/
structure Sound (s : Schedule) : Prop where
  punctual : s.rate.Punctual
  tokens_le : s.bucket.tokens ≤ s.rate.capacity
  tokens_eq_zero : ∀ since ∈ s.sleepers, s.bucket.tokens = 0
  recent : ∀ since ∈ s.sleepers, since < s.bucket.marker + s.rate.interval
  asleep : ∀ since ∈ s.sleepers, since ≤ s.now ∧ s.now ≤ since + s.rate.sleep
  ordered : s.sleepers.Pairwise (· ≤ ·)
  logged : ∀ x ∈ s.log, x.admitted = if x.slept then x.arrived + s.rate.sleep else x.arrived

theorem sound_start {r : Rate} (hr : r.Punctual) (now : Nat) : (start r now).Sound where
  punctual := hr
  tokens_le := Nat.le_refl _
  tokens_eq_zero _ h := absurd h List.not_mem_nil
  recent _ h := absurd h List.not_mem_nil
  asleep _ h := absurd h List.not_mem_nil
  ordered := .nil
  logged _ h := absurd h List.not_mem_nil

/-- **A refill while somebody sleeps** brings one token, if it brings any: the sleeper would have woken before
    the second one. -/
theorem Sound.refill_of_mem (h : s.Sound) {since : Nat} (hs : since ∈ s.sleepers)
    (he : ¬ (s.bucket.refill s.rate s.now).isEmpty = true) :
    s.bucket.refill s.rate s.now = ⟨1, s.now⟩ := by
  have hz := h.tokens_eq_zero since hs
  have hr := h.recent since hs
  have hw := (h.asleep since hs).2
  have hsleep : s.rate.sleep = s.rate.interval := h.punctual
  have hcap := s.rate.capacity_pos
  obtain ⟨heq, _⟩ | ⟨added, hpos, hle, _, heq⟩ := Bucket.refill_cases s.rate s.now s.bucket
  · rw [heq, Bucket.isEmpty_iff] at he
    exact absurd hz he
  · -- two tokens take two intervals, and nobody sleeps that long behind the marker
    have hone : added = 1 := by
      by_contra hne
      have htwo : 2 * s.rate.interval ≤ added * s.rate.interval :=
        Nat.mul_le_mul_right _ (by omega)
      omega
    rw [heq, hz, hone]
    exact congrArg (Bucket.mk · s.now) (Nat.min_eq_left hcap)

theorem Sound.arrive (h : s.Sound) : s.arrive.Sound := by
  by_cases he : (s.bucket.refill s.rate s.now).isEmpty = true
  · obtain ⟨_, hz, hm⟩ := Bucket.refill_of_isEmpty he
    rw [arrive_of_isEmpty he]
    refine ⟨h.punctual, h.tokens_le, fun _ _ => hz, ?_, ?_, ?_, h.logged⟩
    · intro since hs
      rcases List.mem_append.mp hs with hs | hs
      · exact h.recent since hs
      · rw [List.mem_singleton.mp hs]
        exact hm
    · intro since hs
      rcases List.mem_append.mp hs with hs | hs
      · exact h.asleep since hs
      · rw [List.mem_singleton.mp hs]
        exact ⟨Nat.le_refl _, Nat.le_add_right _ _⟩
    · refine List.pairwise_append.mpr ⟨h.ordered, List.pairwise_singleton _ _, fun since hs now hn => ?_⟩
      rw [List.mem_singleton.mp hn]
      exact (h.asleep since hs).1
  · rw [arrive_of_not_isEmpty he]
    refine ⟨h.punctual, ?_, ?_, ?_, h.asleep, h.ordered, ?_⟩
    · exact Nat.le_trans (Nat.sub_le _ _) (Bucket.tokens_refill_le h.tokens_le s.now)
    · intro since hs
      simp only [h.refill_of_mem hs he, Bucket.take]
    · intro since hs
      have hi := s.rate.interval_pos
      have ha := (h.asleep since hs).1
      simp only [h.refill_of_mem hs he, Bucket.take]
      omega
    · intro x hx
      rcases List.mem_append.mp hx with hx | hx
      · exact h.logged x hx
      · rw [List.mem_singleton.mp hx]
        rfl

theorem Sound.wake (h : s.Sound) {i : Nat} (hm : s.Allows (.wake i)) : (s.wake i).Sound := by
  obtain ⟨since, hi, hnow⟩ := hm
  have hsub : ∀ other ∈ s.sleepers.eraseIdx i, other ∈ s.sleepers := fun _ => List.mem_of_mem_eraseIdx
  rw [wake_of_getElem? hi]
  refine ⟨h.punctual, Nat.zero_le _, fun _ _ => rfl, ?_, fun other ho => h.asleep other (hsub other ho),
    h.ordered.eraseIdx i, ?_⟩
  · intro other ho
    have hpos := s.rate.interval_pos
    have ha := (h.asleep other (hsub other ho)).1
    simp only
    omega
  · intro x hx
    rcases List.mem_append.mp hx with hx | hx
    · exact h.logged x hx
    · rw [List.mem_singleton.mp hx]
      exact hnow

theorem Sound.cancel (h : s.Sound) (i : Nat) : (s.cancel i).Sound := by
  have hsub : ∀ other ∈ s.sleepers.eraseIdx i, other ∈ s.sleepers := fun _ => List.mem_of_mem_eraseIdx
  exact ⟨h.punctual, h.tokens_le, fun other ho => h.tokens_eq_zero other (hsub other ho),
    fun other ho => h.recent other (hsub other ho), fun other ho => h.asleep other (hsub other ho),
    h.ordered.eraseIdx i, h.logged⟩

theorem Sound.advance (h : s.Sound) {duration : Nat} (hm : s.Allows (.advance duration)) :
    (s.advance duration).Sound :=
  ⟨h.punctual, h.tokens_le, h.tokens_eq_zero, h.recent,
    fun since hs => ⟨Nat.le_add_right_of_le (h.asleep since hs).1, hm since hs⟩, h.ordered, h.logged⟩

theorem Sound.apply (h : s.Sound) {m : Move} (hm : s.Allows m) : (s.apply m).Sound := by
  cases m with
  | arrive => exact h.arrive
  | wake i => exact h.wake hm
  | cancel i => exact h.cancel i
  | advance duration => exact h.advance hm

theorem sound_run {r : Rate} {now : Nat} (hr : r.Punctual) (h : (start r now).Permits moves) :
    ((start r now).run moves).Sound :=
  h.invariant (fun _ _ hs hm => hs.apply hm) (sound_start hr now)

/-! ## Nobody is lost -/

/-- The instant of an arrival. -/
def came (s : Schedule) : Move → List Nat
  | .arrive => [s.now]
  | _ => []

/-- The instant at which a sleeper who gives up fell asleep. -/
def left (s : Schedule) : Move → List Nat
  | .cancel i => s.sleepers[i]?.toList
  | _ => []

/-- What the moves of a run yield, one after the other. -/
def tally (f : Schedule → Move → List Nat) : Schedule → List Move → List Nat
  | _, [] => []
  | s, m :: rest => f s m ++ tally f (s.apply m) rest

/-- The instants at which those came who were admitted or are asleep. -/
def present (s : Schedule) : List Nat :=
  s.log.map (·.arrived) ++ s.sleepers

theorem present_arrive : s.arrive.present.Perm (s.present ++ [s.now]) := by
  unfold present
  by_cases he : (s.bucket.refill s.rate s.now).isEmpty = true
  · rw [arrive_of_isEmpty he, List.append_assoc]
  · rw [arrive_of_not_isEmpty he, List.map_append, List.append_assoc, List.append_assoc]
    exact List.Perm.append_left _ List.perm_append_comm

theorem perm_eraseIdx {l : List Nat} {i since : Nat} (h : l[i]? = some since) :
    (since :: l.eraseIdx i).Perm l := by
  obtain ⟨hi, rfl⟩ := List.getElem?_eq_some_iff.mp h
  exact List.getElem_cons_eraseIdx_perm hi

theorem present_wake {i since : Nat} (h : s.sleepers[i]? = some since) : (s.wake i).present.Perm s.present := by
  unfold present
  rw [wake_of_getElem? h, List.map_append, List.append_assoc]
  exact (perm_eraseIdx h).append_left _

theorem present_cancel {i since : Nat} (h : s.sleepers[i]? = some since) :
    ((s.cancel i).present ++ [since]).Perm s.present := by
  unfold present
  rw [List.append_assoc]
  exact (List.perm_append_comm.trans (perm_eraseIdx h)).append_left _

/-- **One move**: who is present afterwards or left is who was present before or came. -/
theorem present_apply {m : Move} (hm : s.Allows m) :
    ((s.apply m).present ++ s.left m).Perm (s.present ++ s.came m) := by
  cases m with
  | arrive =>
      show (s.arrive.present ++ []).Perm (s.present ++ [s.now])
      rw [List.append_nil]
      exact present_arrive
  | wake i =>
      obtain ⟨since, hi, _⟩ := hm
      exact (present_wake hi).append_right []
  | cancel i =>
      obtain ⟨since, hi⟩ : ∃ since, s.sleepers[i]? = some since := ⟨_, List.getElem?_eq_getElem hm⟩
      show ((s.cancel i).present ++ s.sleepers[i]?.toList).Perm (s.present ++ [])
      rw [List.append_nil, hi]
      exact present_cancel hi
  | advance duration => exact .refl _

/-- **A run**: everybody who came is present or left. -/
theorem tally_perm (h : s.Permits moves) :
    ((s.run moves).present ++ tally left s moves).Perm (s.present ++ tally came s moves) := by
  induction moves generalizing s with
  | nil => exact .refl _
  | cons m rest ih =>
      have step := present_apply h.1
      have tail := ih h.2
      -- the tally of the rest stands between the two sides, so they are compared instant by instant
      rw [List.perm_iff_count] at step tail ⊢
      intro instant
      have hs := step instant
      have ht := tail instant
      simp only [run_cons, tally, List.count_append] at hs ht ⊢
      omega

/-! ## Everybody who sleeps can be waited for -/

/-- Sleepers wake one after the other, each at the end of its sleep. -/
def wakings (sleep : Nat) : Nat → List Nat → List Move
  | _, [] => []
  | now, since :: rest => .advance (since + sleep - now) :: .wake 0 :: wakings sleep (since + sleep) rest

theorem cancel_not_mem_wakings (sleep now i : Nat) (sleepers : List Nat) :
    Move.cancel i ∉ wakings sleep now sleepers := by
  induction sleepers generalizing now with
  | nil => exact List.not_mem_nil
  | cons since rest ih => simp [wakings, ih]

theorem permits_wakings {sleepers : List Nat} (hs : s.sleepers = sleepers)
    (ho : s.sleepers.Pairwise (· ≤ ·)) (ha : ∀ since ∈ s.sleepers, s.now ≤ since + s.rate.sleep) :
    s.Permits (wakings s.rate.sleep s.now sleepers) ∧
    (s.run (wakings s.rate.sleep s.now sleepers)).log =
      s.log ++ sleepers.map fun since => ⟨since, since + s.rate.sleep, true⟩ := by
  induction sleepers generalizing s with
  | nil => exact ⟨trivial, (List.append_nil _).symm⟩
  | cons since rest ih =>
      rw [hs] at ho ha
      obtain ⟨hfirst, horest⟩ := List.pairwise_cons.mp ho
      -- the first sleeper wakes first
      let t := (s.advance (since + s.rate.sleep - s.now)).wake 0
      have hnow : s.now + (since + s.rate.sleep - s.now) = since + s.rate.sleep := by
        have := ha since List.mem_cons_self
        omega
      have hwake : t = { s with
          now := since + s.rate.sleep
          bucket := ⟨0, since + s.rate.sleep⟩
          sleepers := rest
          log := s.log ++ [⟨since, since + s.rate.sleep, true⟩] } := by
        have h0 : (s.advance (since + s.rate.sleep - s.now)).sleepers[0]? = some since := by
          show s.sleepers[0]? = some since
          rw [hs]
          rfl
        show (s.advance (since + s.rate.sleep - s.now)).wake 0 = _
        rw [wake_of_getElem? h0]
        simp only [advance, hnow, hs, List.eraseIdx_cons_zero]
      obtain ⟨hp, hl⟩ := ih (s := t) (by rw [hwake]) (by rw [hwake]; exact horest)
        (by rw [hwake]; exact fun other hother => Nat.add_le_add_right (hfirst other hother) _)
      have hrate : t.rate = s.rate := by rw [hwake]
      have htnow : t.now = since + s.rate.sleep := by rw [hwake]
      rw [hrate, htnow] at hp hl
      refine ⟨⟨?_, ⟨since, ?_, hnow⟩, hp⟩, ?_⟩
      · intro other hother
        rw [hs] at hother
        rw [hnow]
        rcases List.mem_cons.mp hother with rfl | hother
        · exact Nat.le_refl _
        · exact Nat.add_le_add_right (hfirst other hother) _
      · show s.sleepers[0]? = some since
        rw [hs]
        rfl
      · refine hl.trans ?_
        rw [hwake, List.append_assoc]
        rfl

/-! ## The run without a caller who gives up -/

/-- The index of the sleeper of index `k` once the one of index `i` is gone. -/
def without (i k : Nat) : Nat :=
  if i < k then k - 1 else k

/-- The sleeper of an index gives up in the course of moves, and does not wake before. -/
def GivesUp : Nat → List Move → Prop
  | _, [] => False
  | k, .arrive :: rest => GivesUp k rest
  | k, .advance _ :: rest => GivesUp k rest
  | k, .wake i :: rest => i ≠ k ∧ GivesUp (without i k) rest
  | k, .cancel i :: rest => i = k ∨ GivesUp (without i k) rest

/-- The moves of all but the sleeper of an index, who gives up. -/
def others : Nat → List Move → List Move
  | _, [] => []
  | k, .arrive :: rest => .arrive :: others k rest
  | k, .advance d :: rest => .advance d :: others k rest
  | k, .wake i :: rest => .wake (without k i) :: others (without i k) rest
  | k, .cancel i :: rest =>
    if i = k then rest else .cancel (without k i) :: others (without i k) rest

section Indices

variable {l : List Nat} {i k : Nat}

theorem getElem?_eraseIdx_without (h : i ≠ k) : (l.eraseIdx k)[without k i]? = l[i]? := by
  unfold without
  rw [List.getElem?_eraseIdx]
  grind

theorem eraseIdx_without_comm (h : i ≠ k) :
    (l.eraseIdx k).eraseIdx (without k i) = (l.eraseIdx i).eraseIdx (without i k) := by
  apply List.ext_getElem?
  intro n
  simp only [without, List.getElem?_eraseIdx]
  grind

theorem without_lt (h : i ≠ k) (hi : i < l.length) (hk : k < l.length) :
    without i k < (l.eraseIdx i).length := by
  rw [List.length_eraseIdx_of_lt hi]
  unfold without
  split <;> omega

end Indices

variable {k : Nat}

theorem cancel_arrive (hk : k < s.sleepers.length) : (s.cancel k).arrive = s.arrive.cancel k := by
  by_cases he : (s.bucket.refill s.rate s.now).isEmpty = true
  · have he' : ((s.cancel k).bucket.refill (s.cancel k).rate (s.cancel k).now).isEmpty = true := he
    rw [arrive_of_isEmpty he, arrive_of_isEmpty he']
    simp only [cancel, List.eraseIdx_append_of_lt_length hk]
  · have he' : ¬ ((s.cancel k).bucket.refill (s.cancel k).rate (s.cancel k).now).isEmpty = true := he
    rw [arrive_of_not_isEmpty he, arrive_of_not_isEmpty he']
    rfl

theorem length_arrive (hk : k < s.sleepers.length) : k < s.arrive.sleepers.length := by
  by_cases he : (s.bucket.refill s.rate s.now).isEmpty = true
  · rw [arrive_of_isEmpty he, List.length_append]
    exact Nat.lt_add_right _ hk
  · rw [arrive_of_not_isEmpty he]
    exact hk

theorem cancel_wake {i since : Nat} (h : i ≠ k) (hi : s.sleepers[i]? = some since) :
    (s.cancel k).wake (without k i) = (s.wake i).cancel (without i k) := by
  have hi' : (s.cancel k).sleepers[without k i]? = some since := (getElem?_eraseIdx_without h).trans hi
  rw [wake_of_getElem? hi, wake_of_getElem? hi']
  simp only [cancel, eraseIdx_without_comm h]

theorem cancel_cancel {i : Nat} (h : i ≠ k) :
    (s.cancel k).cancel (without k i) = (s.cancel i).cancel (without i k) := by
  simp only [cancel, eraseIdx_without_comm h]

/-- **It does not matter when a sleeper gives up**: giving up at once lets all others make their moves, and
    leads to the same schedule. -/
theorem run_others (hk : k < s.sleepers.length) (h : s.Permits moves) (hg : GivesUp k moves) :
    (s.cancel k).Permits (others k moves) ∧ (s.cancel k).run (others k moves) = s.run moves := by
  -- giving up commutes with every move of the others, which may change the index of the sleeper
  induction moves generalizing s k with
  | nil => exact hg.elim
  | cons m rest ih =>
      cases m with
      | arrive =>
          obtain ⟨hp, hr⟩ := ih (length_arrive hk) h.2 hg
          simp only [others, run_cons, Throughout, apply]
          rw [cancel_arrive hk]
          exact ⟨⟨trivial, hp⟩, hr⟩
      | advance d =>
          obtain ⟨hp, hr⟩ := ih (s := s.advance d) hk h.2 hg
          exact ⟨⟨fun since hs => h.1 since (List.mem_of_mem_eraseIdx hs), hp⟩, hr⟩
      | wake i =>
          obtain ⟨⟨since, hi, hnow⟩, hrest⟩ := h
          obtain ⟨hne, hg⟩ := hg
          have hlen : without i k < (s.wake i).sleepers.length := by
            rw [wake_of_getElem? hi]
            exact without_lt hne (List.getElem?_eq_some_iff.mp hi).1 hk
          obtain ⟨hp, hr⟩ := ih hlen hrest hg
          simp only [others, run_cons, Throughout, apply]
          rw [cancel_wake hne hi]
          exact ⟨⟨⟨since, (getElem?_eraseIdx_without hne).trans hi, hnow⟩, hp⟩, hr⟩
      | cancel i =>
          by_cases hne : i = k
          · -- here the sleeper gives up, and from here on the two runs are the same
            subst hne
            rw [others, if_pos rfl]
            exact ⟨h.2, rfl⟩
          · obtain ⟨hp, hr⟩ := ih (s := s.cancel i) (without_lt hne h.1 hk) h.2 (hg.resolve_left hne)
            have hi : without k i < (s.sleepers.eraseIdx k).length := without_lt (Ne.symm hne) hk h.1
            rw [others, if_neg hne]
            simp only [run_cons, Throughout, apply]
            rw [cancel_cancel hne]
            exact ⟨⟨hi, hp⟩, hr⟩

/-- A caller who falls asleep and gives up at once leaves everything as it was. -/
theorem cancel_arrive_self (he : (s.bucket.refill s.rate s.now).isEmpty = true) :
    s.arrive.cancel s.sleepers.length = s := by
  rw [arrive_of_isEmpty he]
  simp only [cancel, List.eraseIdx_append_of_length_le (Nat.le_refl _), Nat.sub_self]
  simp

/-- **A caller who gives up might as well not have come.** -/
theorem run_arrive_others (he : (s.bucket.refill s.rate s.now).isEmpty = true)
    (h : s.Permits (.arrive :: moves)) (hg : GivesUp s.sleepers.length moves) :
    s.Permits (others s.sleepers.length moves) ∧
      s.run (others s.sleepers.length moves) = s.run (.arrive :: moves) := by
  have hk : s.sleepers.length < s.arrive.sleepers.length := by
    rw [arrive_of_isEmpty he, List.length_append]
    exact Nat.lt_add_one _
  have hr := run_others hk h.2 hg
  rwa [cancel_arrive_self he] at hr

/-! ## The statements together -/

/-- **Contention does no harm**, if the timer is punctual. In every schedule that any run leads to: the tokens are
    within the capacity, and one is taken only where one is; whoever wakes finds the bucket empty; everybody who came
    was admitted or is asleep, or gave up, was admitted at once or exactly one interval later, does not oversleep, and
    can be waited for; and a caller who falls asleep leaves the bucket as the refill left it, and if it gives up, the
    others' run without it leads to the same schedule. -/
theorem safe_under_contention {r : Rate} {now : Nat} {moves : List Move} (hr : r.Punctual)
    (h : (start r now).Permits moves) :
    let s := (start r now).run moves
    let b := s.bucket.refill r s.now
    (s.bucket.tokens ≤ r.capacity ∧ b.tokens ≤ r.capacity ∧
      (¬ b.isEmpty = true → s.arrive.bucket.tokens + 1 = b.tokens)) ∧
    (∀ i, s.Allows (.wake i) →
      s.bucket.tokens = 0 ∧ (s.wake i).bucket.tokens + 1 = (Bucket.resume s.now).tokens) ∧
    ((s.log.map (·.arrived) ++ s.sleepers ++ tally left (start r now) moves).Perm
        (tally came (start r now) moves) ∧
      (∀ x ∈ s.log, x.admitted = if x.slept then x.arrived + r.interval else x.arrived) ∧
      (∀ since ∈ s.sleepers, since ≤ s.now ∧ s.now ≤ since + r.interval) ∧
      ∃ more, s.Permits more ∧ (∀ i, .cancel i ∉ more) ∧
        (s.run more).log = s.log ++ s.sleepers.map fun since => ⟨since, since + r.interval, true⟩) ∧
    (b.isEmpty = true → s.arrive.bucket = b ∧ b = s.bucket ∧
      ∀ rest, s.Permits (.arrive :: rest) → GivesUp s.sleepers.length rest →
        s.Permits (others s.sleepers.length rest) ∧
          s.run (others s.sleepers.length rest) = s.run (.arrive :: rest)) := by
  intro s b
  have hs : s.Sound := sound_run hr h
  have hrate : s.rate = r := rate_run
  have hsleep : s.rate.sleep = r.interval := hrate ▸ hr
  have hb : b = s.bucket.refill s.rate s.now := by rw [hrate]
  refine ⟨⟨?_, ?_, ?_⟩, ?_, ⟨?_, ?_, ?_, ?_⟩, ?_⟩
  · exact hrate ▸ hs.tokens_le
  · exact Bucket.tokens_refill_le (hrate ▸ hs.tokens_le) s.now
  · intro he
    rw [hb] at he ⊢
    exact tokens_arrive he
  · rintro i ⟨since, hi, _⟩
    refine ⟨hs.tokens_eq_zero since (List.mem_of_getElem? hi), ?_⟩
    rw [wake_of_getElem? hi]
    rfl
  · exact tally_perm h
  · exact hsleep ▸ hs.logged
  · exact hsleep ▸ hs.asleep
  · have hw := permits_wakings rfl hs.ordered fun since hin => (hs.asleep since hin).2
    refine ⟨wakings s.rate.sleep s.now s.sleepers, hw.1, fun i => cancel_not_mem_wakings _ _ i _, ?_⟩
    rw [hw.2, hsleep]
  · intro he
    rw [hb] at he
    refine ⟨?_, ?_, fun rest hp hg => run_arrive_others he hp hg⟩
    · rw [arrive_of_isEmpty he, hb, (Bucket.refill_of_isEmpty he).1]
    · rw [hb, (Bucket.refill_of_isEmpty he).1]

/-- One token, which comes back in a second. -/
def oneToken : Rate := .make .exact 1 (1000 * millisecond)

/-- While the second of four callers sleeps, the third takes the token that comes back, and the fourth falls
    asleep too. -/
def rush : List Move :=
  [.arrive, .advance (600 * millisecond), .arrive, .advance (400 * millisecond), .arrive,
    .advance (100 * millisecond), .arrive, .advance (500 * millisecond)]

/-- Then the second caller wakes to an empty bucket; and if the fourth gives up, this is as if it had not
    come. -/
theorem safe_in_rush :
    let s := (start oneToken 0).run rush
    let t := (start oneToken 0).run (rush.take 6)
    oneToken.Punctual ∧ (start oneToken 0).Permits rush ∧ s.Allows (.wake 0) ∧ s.bucket.tokens = 0 ∧
    (start oneToken 0).Permits (rush.take 6) ∧
    t.Permits [.arrive, .advance (500 * millisecond), .wake 0, .cancel 0] ∧
    t.run [.advance (500 * millisecond), .wake 0] =
      t.run [.arrive, .advance (500 * millisecond), .wake 0, .cancel 0] := by
  intro s t
  have hr : oneToken.Punctual := by decide
  have hp : (start oneToken 0).Permits rush := by decide
  have hp' : (start oneToken 0).Permits (rush.take 6) := by decide
  have hwake : s.Allows (.wake 0) := by decide
  have hrest : t.Permits [.arrive, .advance (500 * millisecond), .wake 0, .cancel 0] := by decide
  have hg : GivesUp t.sleepers.length [.advance (500 * millisecond), .wake 0, .cancel 0] :=
    ⟨by decide, .inl rfl⟩
  exact ⟨hr, hp, hwake, ((safe_under_contention hr hp).2.1 0 hwake).1, hp', hrest,
    (((safe_under_contention hr hp').2.2.2 (by decide)).2.2 _ hrest hg).2⟩

end TeamChat.Limiter.Schedule
