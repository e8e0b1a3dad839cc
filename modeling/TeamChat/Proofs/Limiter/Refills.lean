import TeamChat.Proofs.Limiter.Run

/-!
# `Bucket.refillAll`: where the time of a bucket goes

A refill counts the intervals that have passed in full since the marker. One that counts none leaves the marker where
it is, so nothing is lost by it, however often somebody looks. One that counts some moves the marker to the instant at
which it is made, and what has passed of the next interval by then is counted by no later refill. So the time that a
bucket has seen is divided into the intervals that were counted, the time that was dropped and the interval that has
begun (`elapsed_refillAll`). Of each interval less is dropped than was counted, hence no more than half of the
intervals are missing (`tokens_refillAll`).

## Contents
- `Bucket.due`, `refillAll`, `counted`, `dropped`: refills one after the other.
- `Bucket.counted_tokens`, `elapsed_refillAll`, `dropped_le`: tokens and time.
- `Bucket.part_intervals_dropped`: a refill in between makes a difference.
- `Bucket.tokens_refillAll`: the tokens behind refills.
-/

namespace TeamChat.Limiter.Bucket

variable {r : Rate} {b : Bucket} {t now : Nat} {times : List Nat}

/-! ## One refill -/

/-- The intervals that have passed in full since the marker. -/
def due (r : Rate) (now : Nat) (b : Bucket) : Nat :=
  (now - b.marker) / r.interval

theorem refill_of_due_eq_zero (h : b.due r t = 0) : b.refill r t = b :=
  if_pos h

theorem refill_of_due_ne_zero (h : b.due r t ≠ 0) : b.refill r t = ⟨min (b.tokens + b.due r t) r.capacity, t⟩ :=
  if_neg h

/-- Nothing is due before the marker. -/
theorem marker_lt_of_due (h : b.due r t ≠ 0) : b.marker < t := by
  rcases Nat.lt_or_ge b.marker t with hlt | hle
  · exact hlt
  · rw [due, Nat.sub_eq_zero_of_le hle, Nat.zero_div] at h
    exact absurd rfl h

/-! ## Refills one after the other -/

/-- The bucket after refills at some instants, the first one first. -/
def refillAll (r : Rate) (times : List Nat) (b : Bucket) : Bucket :=
  times.foldl (fun b t => b.refill r t) b

/-- The intervals that refills count. -/
def counted (r : Rate) : List Nat → Bucket → Nat
  | [], _ => 0
  | t :: rest, b => b.due r t + counted r rest (b.refill r t)

/-- The time that refills drop: with intervals that are counted goes what has passed of the next one. -/
def dropped (r : Rate) : List Nat → Bucket → Nat
  | [], _ => 0
  | t :: rest, b => (if b.due r t = 0 then 0 else (t - b.marker) % r.interval) + dropped r rest (b.refill r t)

@[simp] theorem refillAll_nil : b.refillAll r [] = b := by
  rw [refillAll, List.foldl_nil]

@[simp] theorem refillAll_cons (rest : List Nat) : b.refillAll r (t :: rest) = (b.refill r t).refillAll r rest := rfl

theorem refillAll_append_singleton : b.refillAll r (times ++ [t]) = (b.refillAll r times).refill r t := by
  rw [refillAll, List.foldl_append]
  rfl

/-- A token comes for every interval that is counted, up to the capacity. -/
theorem counted_tokens (h : b.tokens ≤ r.capacity) :
    (b.refillAll r times).tokens = min (b.tokens + b.counted r times) r.capacity := by
  induction times generalizing b with
  | nil => exact (Nat.min_eq_left h).symm
  | cons t rest ih =>
      have hrest := ih (tokens_refill_le h t)
      rw [refillAll_cons, counted, hrest]
      by_cases hd : b.due r t = 0
      · rw [refill_of_due_eq_zero hd, hd, Nat.zero_add]
      · rw [refill_of_due_ne_zero hd]
        simp only
        omega

/-- **Where the time goes**: it was counted, it was dropped, or it has passed since the marker. -/
theorem elapsed_refillAll (h : ∀ t ∈ times, t ≤ now) :
    now - b.marker =
      b.counted r times * r.interval + b.dropped r times + (now - (b.refillAll r times).marker) := by
  induction times generalizing b with
  | nil => simp [counted, dropped]
  | cons t rest ih =>
      obtain ⟨hle, hrest⟩ := List.forall_mem_cons.mp h
      have hpast := ih hrest (b := b.refill r t)
      rw [refillAll_cons, counted, dropped, Nat.add_mul]
      by_cases hd : b.due r t = 0
      · rw [refill_of_due_eq_zero hd] at hpast ⊢
        rw [hd, if_pos rfl]
        omega
      · have hlt := marker_lt_of_due hd
        have hsplit : b.due r t * r.interval + (t - b.marker) % r.interval = t - b.marker := by
          rw [due, Nat.mul_comm]
          exact Nat.div_add_mod _ _
        have hmarker : (b.refill r t).marker = t := by rw [refill_of_due_ne_zero hd]
        rw [hmarker] at hpast
        rw [if_neg hd]
        omega

/-- With every interval that is counted, less than one is dropped. -/
theorem dropped_le : b.dropped r times + b.counted r times ≤ b.counted r times * r.interval := by
  induction times generalizing b with
  | nil => exact Nat.zero_le _
  | cons t rest ih =>
      have hrest := ih (b := b.refill r t)
      rw [dropped, counted, Nat.add_mul]
      by_cases hd : b.due r t = 0
      · rw [hd, if_pos rfl]
        omega
      · have hlt := Nat.mod_lt (t - b.marker) r.interval_pos
        obtain ⟨part, hpart⟩ : ∃ part, r.interval = part + 1 := Nat.exists_eq_add_one.mpr r.interval_pos
        have hdue : part ≤ b.due r t * part := Nat.le_mul_of_pos_left part (Nat.pos_of_ne_zero hd)
        have hmul : b.due r t * r.interval = b.due r t * part + b.due r t := by rw [hpart, Nat.mul_add_one]
        rw [if_neg hd]
        omega

/-! ## The tokens -/

/-- Five tokens, of which one comes back in a second. -/
def fiveTokens : Rate := .make .exact 5 (1000 * millisecond)

/-- **A refill in between makes a difference**: of three seconds only two are counted if the bucket is looked at after
    one and a half. -/
theorem part_intervals_dropped :
    ¬ ∀ (r : Rate) (b : Bucket) (times : List Nat) (now : Nat), (b.marker :: (times ++ [now])).Pairwise (· ≤ ·) →
      (b.refillAll r (times ++ [now])).tokens < r.capacity →
      (b.refillAll r (times ++ [now])).tokens = b.tokens + (now - b.marker) / r.interval := by
  intro h
  have counted := h fiveTokens ⟨0, 0⟩ [1500 * millisecond] (3000 * millisecond) (by decide) (by decide)
  exact absurd counted (by decide)

/-- **The tokens behind refills.** They are those that were there and one for every interval that was counted, up to
    the capacity: all the time since the marker counts but for what was dropped. While the capacity is not reached,
    this is one token for each interval that has passed exactly if what was dropped and what has passed since the new
    marker make less than an interval. At least half of the intervals are counted, however often the bucket is
    refilled. -/
theorem tokens_refillAll (hb : b.tokens ≤ r.capacity) (h : ∀ t ∈ times, t ≤ now) :
    (b.refillAll r (times ++ [now])).tokens =
        min (b.tokens + (now - b.marker - b.dropped r (times ++ [now])) / r.interval) r.capacity ∧
      ((b.refillAll r (times ++ [now])).tokens < r.capacity →
        ((b.refillAll r (times ++ [now])).tokens = b.tokens + (now - b.marker) / r.interval ↔
          b.dropped r (times ++ [now]) + (now - (b.refillAll r (times ++ [now])).marker) < r.interval)) ∧
      (now - b.marker) / r.interval ≤
        2 * ((now - b.marker - b.dropped r (times ++ [now])) / r.interval) := by
  have hi := r.interval_pos
  have htokens : (b.refillAll r (times ++ [now])).tokens =
      min (b.tokens + b.counted r (times ++ [now])) r.capacity := counted_tokens hb
  have hpast : ∀ t ∈ times ++ [now], t ≤ now := by
    intro t ht
    rcases List.mem_append.mp ht with ht | ht
    · exact h t ht
    · exact Nat.le_of_eq (List.mem_singleton.mp ht)
  have helapsed := elapsed_refillAll (r := r) (b := b) hpast
  have hdropped : b.dropped r (times ++ [now]) + b.counted r (times ++ [now]) ≤
      b.counted r (times ++ [now]) * r.interval := dropped_le
  -- the last refill leaves less than an interval behind the marker
  have hopen : now - (b.refillAll r (times ++ [now])).marker < r.interval := by
    rw [refillAll_append_singleton]
    have hlt : now < ((b.refillAll r times).refill r now).marker + r.interval := lt_marker_refill
    omega
  generalize (b.refillAll r (times ++ [now])).marker = marker at helapsed hopen ⊢
  generalize (b.refillAll r (times ++ [now])).tokens = tokens at htokens ⊢
  generalize b.counted r (times ++ [now]) = counted at htokens helapsed hdropped
  generalize b.dropped r (times ++ [now]) = dropped at helapsed hdropped ⊢
  have hcounted : (now - b.marker - dropped) / r.interval = counted := by
    have hsum : now - b.marker - dropped = (now - marker) + counted * r.interval := by omega
    rw [hsum, Nat.add_mul_div_right _ _ hi, Nat.div_eq_of_lt hopen, Nat.zero_add]
  have hall : (now - b.marker) / r.interval = (dropped + (now - marker)) / r.interval + counted := by
    have hsum : now - b.marker = dropped + (now - marker) + counted * r.interval := by omega
    rw [hsum, Nat.add_mul_div_right _ _ hi]
  rw [hcounted]
  refine ⟨htokens, fun hlt => ?_, ?_⟩
  · rw [hall, ← Nat.div_eq_zero_iff_lt hi]
    omega
  · have hhalf : now - b.marker < (2 * counted + 1) * r.interval := by
      rw [Nat.add_mul, Nat.mul_assoc]
      omega
    exact Nat.le_of_lt_succ ((Nat.div_lt_iff_lt_mul hi).mpr hhalf)

/-- A bucket with one token. -/
def oneLeft : Bucket := ⟨1, 0⟩

/-- A refill after one and a half seconds drops half a second, one after two and a quarter counts and drops nothing, and
    one after four and a quarter drops three quarters: of four intervals three are counted. -/
theorem tokens_refillAll_between :
    let between := [1500 * millisecond, 2250 * millisecond]
    let now := 4250 * millisecond
    oneLeft.tokens ≤ fiveTokens.capacity ∧ (∀ t ∈ between, t ≤ now) ∧
      oneLeft.dropped fiveTokens (between ++ [now]) = 1250 * millisecond ∧
      (oneLeft.refillAll fiveTokens (between ++ [now])).tokens = 1 + 3 ∧
      ¬ (oneLeft.refillAll fiveTokens (between ++ [now])).tokens = oneLeft.tokens + now / (1000 * millisecond) := by
  intro between now
  have hb : oneLeft.tokens ≤ fiveTokens.capacity := by decide
  have ht : ∀ t ∈ between, t ≤ now := by decide
  have hdropped : oneLeft.dropped fiveTokens (between ++ [now]) = 1250 * millisecond := by decide
  obtain ⟨htokens, hall, _⟩ := tokens_refillAll hb ht
  refine ⟨hb, ht, hdropped, ?_, ?_⟩
  · rw [htokens, hdropped]
    decide
  · intro h
    have hless := (hall (by decide)).mp h
    rw [hdropped] at hless
    exact absurd hless (by decide)

end TeamChat.Limiter.Bucket
