import Mathlib.Algebra.Order.Floor.Div
import TeamChat.Proofs.Limiter.Run

/-!
# `Limiter.Schedule`: how many are admitted in a window of time

In a closed window of time no more callers are admitted at once than the bucket can hold and intervals start
in the window. If each caller comes only when nobody sleeps, and the timer is punctual, this bounds all
admissions, those after a sleep included: a sleeper takes its token when an interval has passed.

The proof keeps an account of the window. What was spent since its first instant is paid by a full bucket and
by one token per interval from there to the marker (`Afforded`); refills, takings and wakings keep it so.

## Contents
- `Afforded`: the account, and what keeps it.
- `admittedWithin`: admissions of a kind in a window.
- `Schedule.Bounded`, `Schedule.Single`: what moves preserve.
- `admittedWithin_le`: the bounds.
-/

namespace TeamChat.Limiter

/-! ## Intervals that start in a time -/

section Intervals

variable {x y d k : Nat}

theorem ceilDiv_add_le (hd : 0 < d) (h : x + k * d ≤ y) : x ⌈/⌉ d + k ≤ y ⌈/⌉ d := by
  rw [Nat.ceilDiv_eq_add_pred_div, Nat.ceilDiv_eq_add_pred_div, ← Nat.add_mul_div_right _ _ hd]
  exact Nat.div_le_div_right (by omega)

theorem ceilDiv_mono (hd : 0 < d) (h : x ≤ y) : x ⌈/⌉ d ≤ y ⌈/⌉ d :=
  ceilDiv_add_le (k := 0) hd (by omega)

theorem le_ceilDiv (hd : 0 < d) (h : k * d < y + d) : k ≤ y ⌈/⌉ d := by
  rw [Nat.ceilDiv_eq_add_pred_div, Nat.le_div_iff_mul_le hd]
  omega

end Intervals

/-! ## The account of a window -/

/-- What was spent since the instant `a` is paid for: by a full bucket, and by one token per interval from `a` to
    the marker. Once something is spent, the marker is no longer an interval back from `a`. -/
structure Afforded (r : Rate) (a spent : Nat) (b : Bucket) : Prop where
  tokens_le : b.tokens ≤ r.capacity
  near : spent = 0 ∨ a < b.marker + r.interval
  paid : spent + b.tokens ≤ r.capacity + (b.marker - a) ⌈/⌉ r.interval

namespace Afforded

variable {r : Rate} {a spent now : Nat} {b : Bucket}

theorem full (since : Nat) : Afforded r a 0 (.full r since) where
  tokens_le := Nat.le_refl _
  near := .inl rfl
  paid := by
    show 0 + r.capacity ≤ _
    omega

/-- What is spent until the marker reaches the end of a window. -/
theorem spent_le {length : Nat} (h : Afforded r a spent b) (hm : b.marker ≤ a + length) :
    spent ≤ r.capacity + length ⌈/⌉ r.interval := by
  have hp := h.paid
  have hc : (b.marker - a) ⌈/⌉ r.interval ≤ length ⌈/⌉ r.interval := ceilDiv_mono r.interval_pos (by omega)
  omega

/-- Each token that a refill adds stands for an interval that has passed since the marker. -/
theorem refill (h : Afforded r a spent b) : Afforded r a spent (b.refill r now) := by
  obtain ⟨he, _⟩ | ⟨added, hpos, hle, _, he⟩ := Bucket.refill_cases r now b
  · rwa [he]
  · rw [he]
    have hp := h.paid
    refine ⟨Nat.min_le_right _ _, ?_, ?_⟩
    · rcases h.near with hz | hn
      · exact .inl hz
      · exact .inr (by simp only; omega)
    · simp only
      rcases h.near with hz | hn
      · omega
      · -- a started interval at the edge of the window pays for the one that began before it
        have hadd : (b.marker - a) ⌈/⌉ r.interval + added ≤ (now - a) ⌈/⌉ r.interval := by
          by_cases ha : a ≤ b.marker
          · exact ceilDiv_add_le r.interval_pos (by omega)
          · have hz : b.marker - a = 0 := by omega
            rw [hz, zero_ceilDiv, Nat.zero_add]
            exact le_ceilDiv r.interval_pos (by omega)
        omega

/-- A token that is there may be taken at any time since `a`, and counts once at most. -/
theorem take {k : Nat} (h : Afforded r a spent b) (ht : 0 < b.tokens) (hm : now < b.marker + r.interval)
    (hk : k ≤ 1) (hin : k = 0 ∨ a ≤ now) : Afforded r a (spent + k) b.take := by
  have hp := h.paid
  have hc := h.tokens_le
  refine ⟨?_, ?_, ?_⟩
  · show b.tokens - 1 ≤ r.capacity
    omega
  · show _ ∨ a < b.marker + r.interval
    rcases h.near with hz | hn
    · rcases hin with hk0 | ha
      · exact .inl (by omega)
      · exact .inr (by omega)
    · exact .inr hn
  · show spent + k + (b.tokens - 1) ≤ r.capacity + (b.marker - a) ⌈/⌉ r.interval
    omega

/-- A sleeper who is not counted leaves an empty bucket. -/
theorem wake (h : Afforded r a spent b) (hm : b.marker ≤ now) : Afforded r a spent ⟨0, now⟩ := by
  have hp := h.paid
  have hc : (b.marker - a) ⌈/⌉ r.interval ≤ (now - a) ⌈/⌉ r.interval :=
    ceilDiv_mono r.interval_pos (by omega)
  refine ⟨Nat.zero_le _, ?_, ?_⟩
  · rcases h.near with hz | hn
    · exact .inl hz
    · exact .inr (by simp only; omega)
  · simp only
    omega

/-- A sleeper who is counted pays with the interval for which it slept, if the marker did not move and nobody
    was admitted meanwhile. -/
theorem wake_counted {since : Nat} (h : Afforded r a spent b) (hm : b.marker ≤ since)
    (hs : spent = 0 ∨ a ≤ since) (hnow : since + r.interval = now) (ha : a ≤ now) :
    Afforded r a (spent + 1) ⟨0, now⟩ := by
  have hp := h.paid
  have hi := r.interval_pos
  have hcap := r.capacity_pos
  refine ⟨Nat.zero_le _, .inr (by simp only; omega), ?_⟩
  simp only
  rcases hs with hz | has
  · omega
  · have hc : (b.marker - a) ⌈/⌉ r.interval + 1 ≤ (now - a) ⌈/⌉ r.interval :=
      ceilDiv_add_le hi (by omega)
    omega

end Afforded

/-! ## Admissions in a window -/

/-- Whether an admission is of a kind and falls into the closed window of a length that begins at `a`. -/
def falls (kind : Admission → Bool) (a length : Nat) (x : Admission) : Bool :=
  kind x && decide (a ≤ x.admitted ∧ x.admitted ≤ a + length)

/-- How many admissions of a kind fall into the closed window of a length that begins at `a`. -/
def admittedWithin (kind : Admission → Bool) (a length : Nat) (log : List Admission) : Nat :=
  log.countP (falls kind a length)

/-- An admission without a sleep. -/
def Admission.atOnce (x : Admission) : Bool :=
  !x.slept

/-- Any admission. -/
def Admission.any (_ : Admission) : Bool :=
  true

section Count

variable {kind : Admission → Bool} {a length : Nat} {log : List Admission} {x : Admission}

theorem admittedWithin_append :
    admittedWithin kind a length (log ++ [x]) =
      admittedWithin kind a length log + if falls kind a length x then 1 else 0 := by
  unfold admittedWithin
  rw [List.countP_append, List.countP_singleton]

theorem falls_window (h : falls kind a length x = true) : a ≤ x.admitted ∧ x.admitted ≤ a + length := by
  simp only [falls, Bool.and_eq_true, decide_eq_true_eq] at h
  exact h.2

end Count

namespace Schedule

variable {s : Schedule} {kind : Admission → Bool} {a length : Nat}

/-! ## What moves preserve -/

/-- The bound for a window holds, and up to the end of the window it is because its account is balanced. -/
structure Bounded (kind : Admission → Bool) (a length : Nat) (s : Schedule) : Prop where
  marker_le : s.bucket.marker ≤ s.now
  count_le : admittedWithin kind a length s.log ≤ s.rate.capacity + length ⌈/⌉ s.rate.interval
  afforded : s.now ≤ a + length → Afforded s.rate a (admittedWithin kind a length s.log) s.bucket

theorem bounded_start (r : Rate) (now : Nat) : (start r now).Bounded kind a length where
  marker_le := Nat.le_refl _
  count_le := Nat.zero_le _
  afforded _ := .full now

/-- Whoever is admitted behind the window does not count. -/
theorem Bounded.admit {b : Bucket} {x : Admission} {sleepers : List Nat} (h : s.Bounded kind a length)
    (hx : x.admitted = s.now) (hm : b.marker ≤ s.now)
    (hb : s.now ≤ a + length → Afforded s.rate a (admittedWithin kind a length (s.log ++ [x])) b) :
    Bounded kind a length { s with bucket := b, sleepers := sleepers, log := s.log ++ [x] } := by
  refine ⟨hm, ?_, hb⟩
  -- the account is kept up to the end of the window, and behind it nothing is counted any more
  by_cases hin : s.now ≤ a + length
  · exact (hb hin).spent_le (hm.trans hin)
  · have hout : ¬ falls kind a length x = true := fun hf => hin (hx ▸ (falls_window hf).2)
    show admittedWithin kind a length (s.log ++ [x]) ≤ _
    rw [admittedWithin_append, if_neg hout]
    exact h.count_le

theorem Bounded.arrive (h : s.Bounded kind a length) : s.arrive.Bounded kind a length := by
  by_cases he : (s.bucket.refill s.rate s.now).isEmpty = true
  · rw [arrive_of_isEmpty he]
    exact ⟨h.marker_le, h.count_le, h.afforded⟩
  · rw [arrive_of_not_isEmpty he]
    refine h.admit rfl (Bucket.marker_refill_le h.marker_le) fun hin => ?_
    rw [Bucket.isEmpty_iff] at he
    rw [admittedWithin_append]
    refine (h.afforded hin).refill.take (by omega) Bucket.lt_marker_refill ?_ ?_
    · split <;> omega
    · by_cases hf : falls kind a length ⟨s.now, s.now, false⟩ = true
      · exact .inr (falls_window hf).1
      · exact .inl (if_neg hf)

theorem Bounded.cancel (h : s.Bounded kind a length) (i : Nat) : (s.cancel i).Bounded kind a length :=
  ⟨h.marker_le, h.count_le, h.afforded⟩

theorem Bounded.advance (h : s.Bounded kind a length) (duration : Nat) :
    (s.advance duration).Bounded kind a length := by
  refine ⟨?_, h.count_le, fun hin => h.afforded ?_⟩
  · exact Nat.le_add_right_of_le h.marker_le
  · exact (Nat.le_add_right _ _).trans hin

/-- Whoever wakes is not among those who are admitted at once. -/
theorem Bounded.wake (h : s.Bounded Admission.atOnce a length) {i since : Nat}
    (hi : s.sleepers[i]? = some since) : (s.wake i).Bounded Admission.atOnce a length := by
  rw [wake_of_getElem? hi]
  refine h.admit rfl (Nat.le_refl _) fun hin => ?_
  rw [admittedWithin_append]
  exact (h.afforded hin).wake h.marker_le

theorem Bounded.apply (h : s.Bounded Admission.atOnce a length) {m : Move} (hm : s.Allows m) :
    (s.apply m).Bounded Admission.atOnce a length := by
  cases m with
  | arrive => exact h.arrive
  | wake i =>
      obtain ⟨since, hi, _⟩ := hm
      exact h.wake hi
  | cancel i => exact h.cancel i
  | advance duration => exact h.advance duration

/-! ## One caller at a time -/

/-- At most one caller sleeps. While it does the marker stays where it is and nobody is admitted. -/
structure Single (a length : Nat) (s : Schedule) : Prop where
  punctual : s.rate.Punctual
  bounded : s.Bounded Admission.any a length
  started : admittedWithin Admission.any a length s.log = 0 ∨ a ≤ s.now
  asleep : s.sleepers = [] ∨ ∃ since, s.sleepers = [since] ∧ s.bucket.marker ≤ since ∧
    (admittedWithin Admission.any a length s.log = 0 ∨ a ≤ since)

theorem single_start {r : Rate} (hr : r.Punctual) (now : Nat) : (start r now).Single a length where
  punctual := hr
  bounded := bounded_start r now
  started := .inl rfl
  asleep := .inl rfl

/-- Whoever counts was admitted since the window began. -/
theorem started_append {log : List Admission} {now : Nat} {x : Admission} (hx : x.admitted = now)
    (h : admittedWithin kind a length log = 0 ∨ a ≤ now) :
    admittedWithin kind a length (log ++ [x]) = 0 ∨ a ≤ now := by
  rw [admittedWithin_append]
  by_cases hf : falls kind a length x = true
  · exact .inr (hx ▸ (falls_window hf).1)
  · rw [if_neg hf]
    exact h

theorem Single.arrive (h : s.Single a length) (hs : s.sleepers = []) : s.arrive.Single a length := by
  refine ⟨?_, h.bounded.arrive, ?_, ?_⟩
  · rw [rate_arrive]
    exact h.punctual
  · by_cases he : (s.bucket.refill s.rate s.now).isEmpty = true
    · rw [arrive_of_isEmpty he]
      exact h.started
    · rw [arrive_of_not_isEmpty he]
      exact started_append rfl h.started
  · by_cases he : (s.bucket.refill s.rate s.now).isEmpty = true
    · rw [arrive_of_isEmpty he]
      exact .inr ⟨s.now, by rw [hs]; rfl, h.bounded.marker_le, h.started⟩
    · rw [arrive_of_not_isEmpty he]
      exact .inl hs

theorem Single.wake (h : s.Single a length) {i : Nat} (hm : s.Allows (.wake i)) :
    (s.wake i).Single a length := by
  obtain ⟨since, hi, hnow⟩ := hm
  -- the sleeper that wakes is the only one
  obtain hs | ⟨since', hs, hmarker, hsince⟩ := h.asleep
  · rw [hs] at hi
    exact absurd hi (by simp)
  · obtain ⟨rfl, rfl⟩ : i = 0 ∧ since' = since := by
      rw [hs, List.getElem?_singleton] at hi
      split at hi
      · exact ⟨by assumption, Option.some.inj hi⟩
      · cases hi
    rw [wake_of_getElem? hi]
    have hinterval : since' + s.rate.interval = s.now := h.punctual ▸ hnow.symm
    refine ⟨h.punctual, ?_, started_append rfl h.started, .inl (by rw [hs]; rfl)⟩
    refine h.bounded.admit rfl (Nat.le_refl _) fun hin => ?_
    rw [admittedWithin_append]
    have hb := h.bounded.afforded hin
    by_cases hf : falls Admission.any a length ⟨since', s.now, true⟩ = true
    · rw [if_pos hf]
      exact hb.wake_counted hmarker hsince hinterval (falls_window hf).1
    · rw [if_neg hf]
      exact hb.wake h.bounded.marker_le

theorem Single.cancel (h : s.Single a length) (i : Nat) : (s.cancel i).Single a length := by
  refine ⟨h.punctual, h.bounded.cancel i, h.started, ?_⟩
  obtain hs | ⟨since, hs, hrest⟩ := h.asleep
  · exact .inl (by show s.sleepers.eraseIdx i = []; rw [hs]; rfl)
  · -- only the index of the one sleeper ends a sleep
    cases i with
    | zero => exact .inl (by show s.sleepers.eraseIdx 0 = []; rw [hs]; rfl)
    | succ i => exact .inr ⟨since, by show s.sleepers.eraseIdx (i + 1) = [since]; rw [hs]; rfl, hrest⟩

theorem Single.advance (h : s.Single a length) (duration : Nat) : (s.advance duration).Single a length :=
  ⟨h.punctual, h.bounded.advance duration, h.started.imp_right (Nat.le_add_right_of_le ·), h.asleep⟩

theorem Single.apply (h : s.Single a length) {m : Move} (hm : s.Allows m) (ha : s.Alone m) :
    (s.apply m).Single a length := by
  cases m with
  | arrive => exact h.arrive ha
  | wake i => exact h.wake hm
  | cancel i => exact h.cancel i
  | advance duration => exact h.advance duration

/-! ## The bounds -/

/-- **How many are admitted in a window of time.** Whatever callers do, no closed window holds more admissions
    without a sleep than the capacity and the intervals that start in it. If the timer is punctual and every caller
    comes when nobody sleeps, this bounds all admissions. -/
theorem admittedWithin_le {r : Rate} {now : Nat} {moves : List Move} (h : (start r now).Permits moves)
    (a length : Nat) :
    let log := ((start r now).run moves).log
    admittedWithin Admission.atOnce a length log ≤ r.capacity + length ⌈/⌉ r.interval ∧
    (r.Punctual → (start r now).Throughout Alone moves →
      admittedWithin Admission.any a length log ≤ r.capacity + length ⌈/⌉ r.interval) := by
  intro log
  have hrate : ((start r now).run moves).rate = r := rate_run
  refine ⟨?_, fun hr halone => ?_⟩
  · have hb : ((start r now).run moves).Bounded Admission.atOnce a length :=
      h.invariant (fun _ _ hs hm => hs.apply hm) (bounded_start r now)
    have hcount := hb.count_le
    rwa [hrate] at hcount
  · have hs : ((start r now).run moves).Single a length :=
      (h.and halone).invariant (fun _ _ hs hm => hs.apply hm.1 hm.2) (single_start hr now)
    have hcount := hs.bounded.count_le
    rwa [hrate] at hcount

/-- Two tokens, of which one comes back in a second. -/
def twoTokens : Rate := .make .exact 2 (1000 * millisecond)

/-- Four callers at once, of whom the third wakes after a second and the fourth gives up. -/
def crowd : List Move :=
  [.arrive, .arrive, .arrive, .advance (400 * millisecond), .arrive, .advance (600 * millisecond), .cancel 1,
    .wake 0, .advance (1500 * millisecond), .arrive]

/-- Four callers one after the other: the third sleeps, and the last comes late. -/
def turns : List Move :=
  [.arrive, .arrive, .advance (400 * millisecond), .arrive, .advance (1000 * millisecond), .wake 0,
    .advance (1500 * millisecond), .arrive]

/-- Of a crowd three are admitted at once within two and a half seconds, and of callers in turn all four. -/
theorem admittedWithin_le_crowd :
    twoTokens.Punctual ∧
    ((start twoTokens 0).Permits crowd ∧
      admittedWithin Admission.atOnce 0 (2500 * millisecond) ((start twoTokens 0).run crowd).log = 3 ∧
      3 ≤ 2 + (2500 * millisecond) ⌈/⌉ (1000 * millisecond)) ∧
    ((start twoTokens 0).Permits turns ∧ (start twoTokens 0).Throughout Alone turns ∧
      admittedWithin Admission.any 0 (2900 * millisecond) ((start twoTokens 0).run turns).log = 4 ∧
      4 ≤ 2 + (2900 * millisecond) ⌈/⌉ (1000 * millisecond)) := by
  have hr : twoTokens.Punctual := by decide
  have hc : (start twoTokens 0).Permits crowd := by decide
  have ht : (start twoTokens 0).Permits turns := by decide
  have ha : (start twoTokens 0).Throughout Alone turns := by decide
  have hcount : admittedWithin Admission.atOnce 0 (2500 * millisecond)
      ((start twoTokens 0).run crowd).log = 3 := by decide
  have hturns : admittedWithin Admission.any 0 (2900 * millisecond)
      ((start twoTokens 0).run turns).log = 4 := by decide
  refine ⟨hr, ⟨hc, hcount, ?_⟩, ht, ha, hturns, ?_⟩
  · have bound := (admittedWithin_le hc 0 (2500 * millisecond)).1
    rwa [hcount] at bound
  · have bound := (admittedWithin_le ht 0 (2900 * millisecond)).2 hr ha
    rwa [hturns] at bound

end Schedule

end TeamChat.Limiter
