import TeamChat.Limiter

/-!
# Callers on one bucket

Any number of callers arrive at one bucket. Each is admitted at once or sleeps for a fixed time; a sleeper
may give up. Time does not pass a sleeper by: it stops at every instant at which one wakes.

## Contents
- `Schedule`: the clock, the bucket, who sleeps and who was admitted.
- `Schedule.arrive`, `wake`, `cancel`, `advance`: the moves, and `Schedule.Allows`, when they are made.
- `Schedule.acquire`, `acquireAll`, `concurrent`, `timeout`: callers who are waited for.
-/

namespace TeamChat.Limiter

/-- A caller who was admitted. -/
structure Admission where
  arrived : Nat
  admitted : Nat
  slept : Bool
deriving DecidableEq, Repr

/-- Callers on one bucket. `sleepers` are the instants at which sleep began, oldest first, `log` who was
admitted, in order. -/
structure Schedule where
  rate : Rate
  now : Nat
  bucket : Bucket
  sleepers : List Nat
  log : List Admission
deriving Repr

/-- What may happen next. -/
inductive Move
  | arrive
  /-- The sleeper of an index takes a fresh token. -/
  | wake (i : Nat)
  /-- The sleeper of an index gives up. -/
  | cancel (i : Nat)
  | advance (duration : Nat)
deriving DecidableEq, Repr

namespace Schedule

/-- A full bucket that nobody has come to. -/
def start (r : Rate) (now : Nat) : Schedule := ⟨r, now, .full r now, [], []⟩

/-! ## Moves -/

/-- A caller arrives: the bucket is refilled, and the caller takes a token or goes to sleep. -/
def arrive (s : Schedule) : Schedule :=
  let b := s.bucket.refill s.rate s.now
  if b.isEmpty then { s with bucket := b, sleepers := s.sleepers ++ [s.now] }
  else { s with bucket := b.take, log := s.log ++ [⟨s.now, s.now, false⟩] }

/-- A sleeper takes a fresh token. -/
def wake (i : Nat) (s : Schedule) : Schedule :=
  match s.sleepers[i]? with
  | none => s
  | some since =>
    { s with
      bucket := (Bucket.resume s.now).take
      sleepers := s.sleepers.eraseIdx i
      log := s.log ++ [⟨since, s.now, true⟩] }

/-- A sleeper gives up. -/
def cancel (i : Nat) (s : Schedule) : Schedule :=
  { s with sleepers := s.sleepers.eraseIdx i }

/-- Time passes. -/
def advance (duration : Nat) (s : Schedule) : Schedule :=
  { s with now := s.now + duration }

/-- The schedule after a move. -/
def apply : Move → Schedule → Schedule
  | .arrive => arrive
  | .wake i => wake i
  | .cancel i => cancel i
  | .advance d => advance d

/-- When a move can be made: a sleeper wakes at the end of its sleep, and time passes no such end. -/
def Allows (s : Schedule) : Move → Prop
  | .arrive => True
  | .wake i => ∃ since, s.sleepers[i]? = some since ∧ s.now = since + s.rate.sleep
  | .cancel i => i < s.sleepers.length
  | .advance d => ∀ since ∈ s.sleepers, s.now + d ≤ since + s.rate.sleep

/-! ## Callers who are waited for -/

/-- Time passes until the next sleeper wakes, if somebody sleeps. -/
def toNextWake (s : Schedule) : Schedule :=
  match s.sleepers.min? with
  | none => s
  | some since => s.advance (since + s.rate.sleep - s.now)

/-- As many sleepers as there are wake one after the other, oldest first. -/
def wakeAll (s : Schedule) : Schedule :=
  s.sleepers.length.repeat (wake 0) s

/-- A number of callers who arrive at once and are all waited for. -/
def concurrent (count : Nat) (s : Schedule) : Schedule :=
  (count.repeat arrive s).toNextWake.wakeAll

/-- One caller, who is waited for. -/
def acquire (s : Schedule) : Schedule :=
  s.concurrent 1

/-- A number of callers, each of whom comes when the one before is admitted, and when they are. -/
def acquireAll : Nat → Schedule → List Nat × Schedule
  | 0, s => ([], s)
  | n + 1, s =>
    let t := s.acquire
    let (times, u) := acquireAll n t
    (t.now :: times, u)

/-- One caller, who gives up unless admitted within a time. -/
def timeout (limit : Nat) (s : Schedule) : Schedule :=
  let t := s.arrive
  if t.sleepers.isEmpty then t
  -- who wakes at the very end of the limit is still admitted
  else if s.rate.sleep ≤ limit then t.toNextWake.wakeAll
  else (t.advance limit).cancel 0

end Schedule

end TeamChat.Limiter
