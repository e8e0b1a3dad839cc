import Mathlib.Logic.Function.Iterate
import TeamChat.Limiter.Schedule

/-!
# `Limiter.Schedule`: runs of callers

A run is any sequence of moves, each of which can be made when it is made: callers come, sleepers wake at
the end of their sleep or give up, and time passes in between. What a refill can do is said once
(`Bucket.refill_cases`), what an arrival can do follows (`arrive_of_isEmpty`, `arrive_of_not_isEmpty`), and
an invariant of single moves is one of runs (`Throughout.invariant`). A caller who is waited for makes a run too.

## Contents
- `Bucket.refill_cases`, `refill_of_isEmpty`, `lt_marker_refill`: what a refill can do.
- `Schedule.arrive_of_isEmpty`, `arrive_of_not_isEmpty`: what an arrival can do.
- `Schedule.run`, `Schedule.Throughout`, `Schedule.Permits`: runs, and conditions on all their moves.
- `Throughout.invariant`: from moves to runs.
- `Schedule.acquire_of_isEmpty`, `acquire_iterate_eq_run`: callers who are waited for, one after the other.
-/

namespace TeamChat.Limiter

namespace Bucket

variable {r : Rate} {b : Bucket} {now : Nat}

theorem isEmpty_iff : b.isEmpty = true ↔ b.tokens = 0 :=
  decide_eq_true_iff

/-- **All that a refill can do.** Less than an interval has passed since the marker, and nothing changes; or
    intervals have passed in full, a token is added for each up to the capacity, and the marker moves. -/
theorem refill_cases (r : Rate) (now : Nat) (b : Bucket) :
    (b.refill r now = b ∧ now < b.marker + r.interval) ∨
    ∃ added, 0 < added ∧ b.marker + added * r.interval ≤ now ∧
      now < b.marker + added * r.interval + r.interval ∧
      b.refill r now = ⟨min (b.tokens + added) r.capacity, now⟩ := by
  have hi := r.interval_pos
  have hle : (now - b.marker) / r.interval * r.interval ≤ now - b.marker := Nat.div_mul_le_self _ _
  have hlt : now - b.marker < (now - b.marker) / r.interval * r.interval + r.interval :=
    Nat.lt_div_mul_add hi
  unfold refill
  generalize (now - b.marker) / r.interval = added at hle hlt ⊢
  by_cases ha : added = 0
  · subst ha
    exact .inl ⟨rfl, by omega⟩
  · have hpos : 0 < added * r.interval := Nat.mul_pos (Nat.pos_of_ne_zero ha) hi
    exact .inr ⟨added, Nat.pos_of_ne_zero ha, by omega, by omega, if_neg ha⟩

/-- A refill that leaves the bucket empty changes nothing. -/
theorem refill_of_isEmpty (h : (b.refill r now).isEmpty = true) :
    b.refill r now = b ∧ b.tokens = 0 ∧ now < b.marker + r.interval := by
  rw [isEmpty_iff] at h
  obtain ⟨he, hlt⟩ | ⟨added, hpos, _, _, he⟩ := refill_cases r now b
  · rw [he] at h
    exact ⟨he, h, hlt⟩
  · -- a token that was added would still be there
    have hc := r.capacity_pos
    rw [he] at h
    simp only at h
    omega

/-- Behind a refill the next token is less than an interval away. -/
theorem lt_marker_refill : now < (b.refill r now).marker + r.interval := by
  obtain ⟨he, hlt⟩ | ⟨_, _, _, _, he⟩ := refill_cases r now b
  · rw [he]
    exact hlt
  · rw [he]
    exact Nat.lt_add_of_pos_right r.interval_pos

theorem marker_refill_le (h : b.marker ≤ now) : (b.refill r now).marker ≤ now := by
  obtain ⟨he, _⟩ | ⟨_, _, _, _, he⟩ := refill_cases r now b
  · rwa [he]
  · exact Nat.le_of_eq (congrArg marker he)

end Bucket

namespace Schedule

variable {s : Schedule}

/-! ## Arrivals -/

/-- A caller who finds nothing goes to sleep, and the bucket stays as it is. -/
theorem arrive_of_isEmpty (h : (s.bucket.refill s.rate s.now).isEmpty = true) :
    s.arrive = { s with sleepers := s.sleepers ++ [s.now] } := by
  have he := (Bucket.refill_of_isEmpty h).1
  have harrive : s.arrive = { s with
      bucket := s.bucket.refill s.rate s.now
      sleepers := s.sleepers ++ [s.now] } := if_pos h
  rw [harrive, he]

/-- A caller who finds a token takes it and is admitted. -/
theorem arrive_of_not_isEmpty (h : ¬ (s.bucket.refill s.rate s.now).isEmpty = true) :
    s.arrive = { s with
      bucket := (s.bucket.refill s.rate s.now).take
      log := s.log ++ [⟨s.now, s.now, false⟩] } :=
  if_neg h

/-- Who is admitted takes a token that is there. -/
theorem tokens_arrive (h : ¬ (s.bucket.refill s.rate s.now).isEmpty = true) :
    s.arrive.bucket.tokens + 1 = (s.bucket.refill s.rate s.now).tokens := by
  rw [arrive_of_not_isEmpty h]
  rw [Bucket.isEmpty_iff] at h
  exact Nat.sub_add_cancel (Nat.pos_of_ne_zero h)

/-- A sleeper takes the token that it makes, and leaves an empty bucket. -/
theorem wake_of_getElem? {i since : Nat} (h : s.sleepers[i]? = some since) :
    s.wake i = { s with
      bucket := ⟨0, s.now⟩
      sleepers := s.sleepers.eraseIdx i
      log := s.log ++ [⟨since, s.now, true⟩] } := by
  unfold wake
  rw [h]
  rfl

@[simp] theorem rate_arrive : s.arrive.rate = s.rate := by
  by_cases h : (s.bucket.refill s.rate s.now).isEmpty = true
  · rw [arrive_of_isEmpty h]
  · rw [arrive_of_not_isEmpty h]

theorem rate_apply (m : Move) : (s.apply m).rate = s.rate := by
  cases m with
  | arrive => exact rate_arrive
  | wake i =>
      show (s.wake i).rate = s.rate
      unfold wake
      split <;> rfl
  | cancel i => rfl
  | advance d => rfl

/-! ## Runs -/

/-- The schedule after moves, the first one first. -/
def run (s : Schedule) (moves : List Move) : Schedule :=
  moves.foldl (fun s m => s.apply m) s

@[simp] theorem run_cons (m : Move) (moves : List Move) : s.run (m :: moves) = (s.apply m).run moves := by
  rw [run, List.foldl_cons, run]

/-- `P` holds of every move of a run in the schedule in which it is made. -/
def Throughout (P : Schedule → Move → Prop) : Schedule → List Move → Prop
  | _, [] => True
  | s, m :: rest => P s m ∧ Throughout P (s.apply m) rest

/-- A caller only comes when nobody sleeps. -/
def Alone (s : Schedule) : Move → Prop
  | .arrive => s.sleepers = []
  | _ => True

instance (s : Schedule) (m : Move) : Decidable (s.Alone m) :=
  match m with
  | .arrive => inferInstanceAs (Decidable (s.sleepers = []))
  | .wake _ => .isTrue trivial
  | .cancel _ => .isTrue trivial
  | .advance _ => .isTrue trivial

/-- Every move of a run can be made. -/
abbrev Permits : Schedule → List Move → Prop :=
  Throughout Allows

variable {P Q : Schedule → Move → Prop} {moves : List Move}

theorem Throughout.and (hP : Throughout P s moves) (hQ : Throughout Q s moves) :
    Throughout (fun s m => P s m ∧ Q s m) s moves := by
  induction moves generalizing s with
  | nil => trivial
  | cons m rest ih => exact ⟨⟨hP.1, hQ.1⟩, ih hP.2 hQ.2⟩

/-- **From moves to runs**: what every move keeps, a run keeps. -/
theorem Throughout.invariant {I : Schedule → Prop} (hstep : ∀ s m, I s → P s m → I (s.apply m))
    (h : Throughout P s moves) (hs : I s) : I (s.run moves) := by
  induction moves generalizing s with
  | nil => exact hs
  | cons m rest ih => exact ih h.2 (hstep s m hs h.1)

instance (s : Schedule) (m : Move) : Decidable (s.Allows m) :=
  match m with
  | .arrive => .isTrue trivial
  | .wake i =>
      match h : s.sleepers[i]? with
      | none => .isFalse (by simp [Allows, h])
      | some since => decidable_of_iff (s.now = since + s.rate.sleep) (by simp [Allows, h])
  | .cancel i => inferInstanceAs (Decidable (i < s.sleepers.length))
  | .advance d => inferInstanceAs (Decidable (∀ since ∈ s.sleepers, s.now + d ≤ since + s.rate.sleep))

instance decidableThroughout [∀ s m, Decidable (P s m)] :
    ∀ s moves, Decidable (Throughout P s moves)
  | _, [] => .isTrue trivial
  | s, m :: rest =>
      have := decidableThroughout (s.apply m) rest
      inferInstanceAs (Decidable (P s m ∧ Throughout P (s.apply m) rest))

theorem run_append (more : List Move) : s.run (moves ++ more) = (s.run moves).run more :=
  List.foldl_append

theorem throughout_append {more : List Move} :
    Throughout P s (moves ++ more) ↔ Throughout P s moves ∧ Throughout P (s.run moves) more := by
  induction moves generalizing s with
  | nil => exact (iff_of_eq (true_and _)).symm
  | cons m rest ih => exact (and_congr_right fun _ => ih).trans and_assoc.symm

theorem rate_run : (s.run moves).rate = s.rate := by
  induction moves generalizing s with
  | nil => rfl
  | cons m rest ih => exact ih.trans (rate_apply m)

/-! ## Callers who are waited for -/

/-- A caller who finds nothing is admitted after a sleep. -/
theorem acquire_of_isEmpty (hs : s.sleepers = []) (h : (s.bucket.refill s.rate s.now).isEmpty = true) :
    s.acquire = { s with
      now := s.now + s.rate.sleep
      bucket := ⟨0, s.now + s.rate.sleep⟩
      log := s.log ++ [⟨s.now, s.now + s.rate.sleep, true⟩] } := by
  have hacquire : s.acquire = s.arrive.toNextWake.wakeAll := rfl
  have hsleep : s.now + (s.now + s.rate.sleep - s.now) = s.now + s.rate.sleep := by omega
  rw [hacquire, arrive_of_isEmpty h, hs]
  simp only [toNextWake, wakeAll, advance, List.nil_append, List.min?_singleton, hsleep]
  rfl

/-- A caller who finds a token is admitted at once. -/
theorem acquire_of_not_isEmpty (hs : s.sleepers = []) (h : ¬ (s.bucket.refill s.rate s.now).isEmpty = true) :
    s.acquire = { s with
      bucket := (s.bucket.refill s.rate s.now).take
      log := s.log ++ [⟨s.now, s.now, false⟩] } := by
  have hacquire : s.acquire = s.arrive.toNextWake.wakeAll := rfl
  rw [hacquire, arrive_of_not_isEmpty h, hs]
  rfl

theorem sleepers_acquire (hs : s.sleepers = []) : s.acquire.sleepers = [] := by
  by_cases h : (s.bucket.refill s.rate s.now).isEmpty = true
  · rw [acquire_of_isEmpty hs h]
    exact hs
  · rw [acquire_of_not_isEmpty hs h]
    exact hs

/-- **A caller who is waited for** makes a run: it comes, and if it finds nothing, it sleeps and wakes. -/
theorem acquire_eq_run (hs : s.sleepers = []) :
    ∃ moves, s.Permits moves ∧ s.Throughout Alone moves ∧ s.acquire = s.run moves := by
  by_cases h : (s.bucket.refill s.rate s.now).isEmpty = true
  · have harrive : s.arrive = { s with sleepers := [s.now] } := by rw [arrive_of_isEmpty h, hs, List.nil_append]
    refine ⟨[.arrive, .advance s.rate.sleep, .wake 0], ?_, ⟨hs, trivial, trivial, trivial⟩, ?_⟩
    · -- the caller is the only one who sleeps, and wakes at the end of the sleep
      simp only [Permits, Throughout, Allows, apply, harrive, advance]
      simp
    · rw [acquire_of_isEmpty hs h]
      show _ = ((s.arrive).advance s.rate.sleep).wake 0
      rw [harrive, ← hs]
      simp [advance, wake, Bucket.resume, Bucket.take, hs]
  · refine ⟨[.arrive], ⟨trivial, trivial⟩, ⟨hs, trivial⟩, ?_⟩
    rw [acquire_of_not_isEmpty hs h]
    exact (arrive_of_not_isEmpty h).symm

/-- Callers who are waited for, one after the other, make a run in which nobody comes while somebody sleeps. -/
theorem acquire_iterate_eq_run (hs : s.sleepers = []) (n : Nat) :
    ∃ moves, s.Permits moves ∧ s.Throughout Alone moves ∧ acquire^[n] s = s.run moves := by
  induction n generalizing s with
  | zero => exact ⟨[], trivial, trivial, rfl⟩
  | succ n ih =>
      obtain ⟨first, hp, ha, hfirst⟩ := acquire_eq_run hs
      obtain ⟨rest, hp', ha', hrest⟩ := ih (sleepers_acquire hs)
      rw [hfirst] at hp' ha' hrest
      refine ⟨first ++ rest, throughout_append.mpr ⟨hp, hp'⟩, throughout_append.mpr ⟨ha, ha'⟩, ?_⟩
      rw [Function.iterate_succ_apply, hfirst, hrest, run_append]

end Schedule

end TeamChat.Limiter
