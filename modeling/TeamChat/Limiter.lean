/-!
# Admission of calls

A bucket holds tokens, one for each call. A token comes back per interval that has passed in full since
the marker, up to the capacity of the bucket. A caller who finds the bucket empty sleeps for one interval
and then takes a fresh token, whatever happened in between. When the sleeper wakes is up to the timer; one
that is punctual ends a sleep when the interval is over. Times count nanoseconds.

## Contents
- `Timer`, `Rate`, `Rate.make`: capacity and interval, and how long a sleep for an interval lasts.
- `Rate.Punctual`: it lasts for the interval.
- `Bucket`, `Bucket.refill`, `Bucket.take`, `Bucket.resume`: what callers do to the bucket.
- `tokens_refill_le`: the capacity is never exceeded.
-/

namespace TeamChat.Limiter

/-- A millisecond. -/
def millisecond : Nat := 1000000

/-- A timer: how long a sleep lasts that is meant to last for some time. -/
abbrev Timer := Nat → Nat

/-- The timer by which every sleep lasts as long as it is meant to. -/
def Timer.exact : Timer := fun duration => duration

/-- How many calls are admitted at once, how long a token takes to come back, and how long a sleep for that
time lasts. -/
structure Rate where
  capacity : Nat
  interval : Nat
  sleep : Nat
  capacity_pos : 0 < capacity
  interval_pos : 0 < interval
deriving DecidableEq, Repr

/-- The rate that is asked for, with at least one token and at least a millisecond. -/
def Rate.make (timer : Timer) (capacity interval : Nat) : Rate where
  capacity := max capacity 1
  interval := max interval millisecond
  sleep := timer (max interval millisecond)
  capacity_pos := by omega
  interval_pos := by unfold millisecond; omega

/-- The timer is right about the interval: whoever sleeps for it wakes when it is over, neither before nor
after. -/
def Rate.Punctual (r : Rate) : Prop :=
  r.sleep = r.interval

instance (r : Rate) : Decidable r.Punctual :=
  inferInstanceAs (Decidable (r.sleep = r.interval))

/-- Tokens, and the instant up to which they were refilled. -/
structure Bucket where
  tokens : Nat
  marker : Nat
deriving DecidableEq, Repr

namespace Bucket

/-- A full bucket. -/
def full (r : Rate) (now : Nat) : Bucket := ⟨r.capacity, now⟩

/-- A token for every full interval since the marker. The marker moves only if there is one. -/
def refill (r : Rate) (now : Nat) (b : Bucket) : Bucket :=
  -- what is left of a started interval is not counted again once the marker moves
  let added := (now - b.marker) / r.interval
  if added = 0 then b else ⟨min (b.tokens + added) r.capacity, now⟩

/-- Whether a caller has to sleep. -/
def isEmpty (b : Bucket) : Bool :=
  b.tokens = 0

/-- The bucket with one token less. -/
def take (b : Bucket) : Bucket :=
  { b with tokens := b.tokens - 1 }

/-- The bucket that a sleeper finds: one fresh token. -/
def resume (now : Nat) : Bucket := ⟨1, now⟩

theorem tokens_refill_le {r : Rate} {b : Bucket} (h : b.tokens ≤ r.capacity) (now : Nat) :
    (b.refill r now).tokens ≤ r.capacity := by
  simp only [refill]
  split
  · exact h
  · exact Nat.min_le_right _ _

end Bucket

end TeamChat.Limiter
