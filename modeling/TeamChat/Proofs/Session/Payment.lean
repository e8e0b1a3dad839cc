import TeamChat.Proofs.Limiter.Run
import TeamChat.Proofs.Session.Building

/-!
# `Session.Paid`: every call is paid for

A session signs in, perhaps more than once, and is asked for one thing after the other, while time passes in
between. Calls are made in pages, for replies, for names that come up in messages and channels, and any of
them may fail; but each comes out of the one place that takes a token first. So tokens and calls alternate in
the trace of every run.

A session that takes a token is a caller on a bucket, and is waited for (`acquire_callers`). So the calls of a
session are a run of callers, of whom each is admitted once, by a token of its own, and comes when nobody
sleeps (`alternates_takeTurns`); what is known of such runs is known of sessions.

## Contents
- `Remote.Alternates`, `Remote.paidFor`: traces in which every call is paid for.
- `Session.Outward`, `Outward.building`: relations that calls keep to, and that look at nothing a session
  remembers.
- `World.callers`, `acquire_callers`: a session as a caller on its bucket.
- `Session.Paid`, `outward_paid`: as many callers are admitted as calls are made.
- `Session.Demand`, `Session.Turn`, `takeTurns`, `Served`: runs of a session.
-/

namespace TeamChat

open Limiter (Admission Move Schedule)
open Remote (ApiError Call Step)

namespace Remote

/-! ## Traces -/

/-- Whether a token is taken before every call, and a call is made with every token. -/
def Alternates : List Step → Bool
  | [] => true
  | .acquire :: .call _ :: rest => Alternates rest
  | _ => false

/-- The trace of calls, each with its own token. -/
def paidFor (cs : List Call) : List Step :=
  cs.flatMap fun c => [.acquire, .call c]

theorem alternates_paidFor (cs : List Call) : Alternates (paidFor cs) = true := by
  induction cs with
  | nil => rfl
  | cons c rest ih => exact ih

theorem length_paidFor (cs : List Call) : (paidFor cs).length = 2 * cs.length := by
  induction cs with
  | nil => rfl
  | cons c rest ih =>
      show (paidFor rest).length + 2 = _
      rw [ih, List.length_cons, Nat.mul_add]

end Remote

open Remote (Alternates paidFor alternates_paidFor length_paidFor)

namespace Session

variable {R : World → World → Prop}

/-! ## Relations that look outward -/

/-- A relation that calls keep to, that carries over from one step to the next, and to which it makes no
    difference which names and threads a session remembers. -/
structure Outward (R : World → World → Prop) : Prop where
  trans : ∀ {w₁ w₂ w₃}, R w₁ w₂ → R w₂ w₃ → R w₁ w₃
  call : ∀ c, Along R (call c)
  aside : ∀ w directory threads, R w { w with directory := directory, threads := threads }

namespace Outward

variable (hR : Outward R)

include hR

/-- A look-up remembers names, and makes a call at most. -/
theorem stepwise : Stepwise R where
  refl w := hR.aside w w.directory w.threads
  trans := hR.trans
  call := hR.call
  resolve user r w := by
    obtain ⟨_, _, _, ha⟩ | ⟨_, _, _, _, ha⟩ | ⟨_, _, _, ha⟩ := resolve_cases r w user
    · rw [ha]
      exact hR.aside w w.directory w.threads
    · rw [ha]
      exact hR.aside w _ w.threads
    · rw [ha]
      exact hR.trans (hR.call (.userInfo user) r w) (hR.aside _ _ _)

/-- Threads, and names of owners, are only remembered. -/
theorem building : Building R where
  toStepwise := hR.stepwise
  register _ := fun _ w => hR.aside w w.directory _
  prime _ _ := fun _ w => hR.aside w _ w.threads
  clear := fun _ w => hR.aside w w.directory _

end Outward

end Session

/-! ## Sessions as callers -/

namespace World

/-- The bucket of a world with those who were admitted so far. Nobody sleeps there, for a session does nothing
    else while it waits. -/
def callers (w : World) (log : List Admission) : Schedule :=
  ⟨w.rate, w.clock, w.bucket, [], log⟩

/-- How a session is admitted that takes a token now. -/
def admission (w : World) : Admission :=
  ⟨w.clock, w.acquire.clock, (w.bucket.refill w.rate w.clock).isEmpty⟩

/-- **A session that takes a token** is a caller who comes to its bucket and is waited for. -/
theorem acquire_callers (w : World) (log : List Admission) :
    (w.callers log).acquire = w.acquire.callers (log ++ [w.admission]) := by
  by_cases h : (w.bucket.refill w.rate w.clock).isEmpty = true
  · have hw : w.acquire = { w with clock := w.clock + w.rate.sleep, bucket := ⟨0, w.clock + w.rate.sleep⟩ } :=
      if_pos h
    rw [Schedule.acquire_of_isEmpty rfl h, admission, hw, h]
    rfl
  · have hw : w.acquire = { w with bucket := (w.bucket.refill w.rate w.clock).take } := if_neg h
    rw [Schedule.acquire_of_not_isEmpty rfl h, admission, hw, Bool.eq_false_iff.mpr h]
    rfl

end World

namespace Session

/-! ## Tokens and calls -/

/-- Between two worlds some calls were made: for each of them one caller was admitted, one after the other, and
    nothing else touched the clock, the bucket or the trace. -/
structure Paid (cs : List Call) (w w' : World) : Prop where
  calendar : w'.now = w.now
  trace : w'.trace = w.trace ++ paidFor cs
  admitted : ∀ log, ∃ more, more.length = cs.length ∧
    Schedule.acquire^[cs.length] (w.callers log) = w'.callers (log ++ more)

theorem Paid.trans {cs ds : List Call} {w₁ w₂ w₃ : World} (h₁ : Paid cs w₁ w₂) (h₂ : Paid ds w₂ w₃) :
    Paid (cs ++ ds) w₁ w₃ where
  calendar := h₂.calendar.trans h₁.calendar
  trace := by simp only [h₂.trace, h₁.trace, paidFor, List.flatMap_append, List.append_assoc]
  admitted := by
    intro log
    obtain ⟨first, hfirst, hrun⟩ := h₁.admitted log
    obtain ⟨later, hlater, hrun'⟩ := h₂.admitted (log ++ first)
    refine ⟨first ++ later, ?_, ?_⟩
    · rw [List.length_append, List.length_append, hfirst, hlater]
    · rw [List.length_append, Nat.add_comm, Function.iterate_add_apply, hrun, hrun', List.append_assoc]

theorem paid_call (c : Call) (w : World) : Paid [c] w (called c w) where
  calendar := by rw [called, acquire_eq w]; rfl
  trace := trace_called w c
  admitted log := ⟨[w.admission], rfl, w.acquire_callers log⟩

theorem outward_paid : Outward fun w w' => ∃ cs, Paid cs w w' where
  trans := fun ⟨cs, h₁⟩ ⟨ds, h₂⟩ => ⟨cs ++ ds, h₁.trans h₂⟩
  call c _ w := ⟨[c], paid_call c w⟩
  aside w _ _ := ⟨[], rfl, (List.append_nil _).symm, fun log => ⟨[], rfl, by rw [List.append_nil]; rfl⟩⟩

/-! ## Runs of a session -/

/-- What is asked of a session: to sign in, or to carry an operation out. -/
inductive Demand
  | connect (settings : Settings)
  | perform (s : Service) (op : Service.Operation)

/-- Does what is asked. -/
def Demand.meet : Demand → Session Unit
  | .connect settings => do let _ ← Session.connect settings
  | .perform s op => do let _ ← s.perform op

/-- What is asked of a session next, after a pause and at a time of the calendar. -/
structure Turn where
  duration : Nat
  now : Int
  demand : Demand

/-- Does what is asked, one thing after the other. -/
def takeTurns : List Turn → Session Unit
  | [] => return
  | t :: rest => do
    pause t.duration t.now
    t.demand.meet
    takeTurns rest

/-- What is asked of a session is built from its steps. -/
theorem Building.meet (hR : Building R) (d : Demand) : Along R d.meet := by
  cases d with
  | connect settings => exact hR.bind_pure (hR.connect settings)
  | perform s op => exact hR.bind_pure (hR.perform s op)

theorem paid_meet (d : Demand) (r : Remote) (w : World) : ∃ cs, Paid cs w (after d.meet r w) :=
  outward_paid.building.meet d r w

/-- A world to which a session has led from a full bucket: in its trace each call is paid for, and the calls are
    those of a run of callers who come one at a time, each of them admitted once. -/
def Served (rate : Limiter.Rate) (clock : Nat) (w : World) : Prop :=
  ∃ calls moves log, w.trace = paidFor calls ∧ (Schedule.start rate clock).Permits moves ∧
    (Schedule.start rate clock).Throughout Schedule.Alone moves ∧
    (Schedule.start rate clock).run moves = w.callers log ∧ log.length = calls.length

theorem served_start (rate : Limiter.Rate) (now : Int) (clock : Nat) (directory : Directory) :
    Served rate clock (.start rate now clock directory) :=
  ⟨[], [], [], rfl, trivial, trivial, rfl, rfl⟩

namespace Served

variable {rate : Limiter.Rate} {clock : Nat} {w w' : World}

/-- Time passes while nobody sleeps. -/
theorem pause (h : Served rate clock w) (duration : Nat) (now : Int) :
    Served rate clock (paused duration now w) := by
  obtain ⟨calls, moves, log, htrace, hpermits, halone, hrun, hlength⟩ := h
  refine ⟨calls, moves ++ [.advance duration], log, htrace, ?_, ?_, ?_, hlength⟩
  · refine Schedule.throughout_append.mpr ⟨hpermits, ?_, trivial⟩
    rw [hrun]
    exact fun _ hs => absurd hs List.not_mem_nil
  · exact Schedule.throughout_append.mpr ⟨halone, trivial, trivial⟩
  · rw [Schedule.run_append, hrun]
    rfl

/-- The calls that are made next are callers who come next. -/
theorem of_paid (h : Served rate clock w) {cs : List Call} (hp : Paid cs w w') : Served rate clock w' := by
  obtain ⟨calls, moves, log, htrace, hpermits, halone, hrun, hlength⟩ := h
  obtain ⟨more, hmore, hadmitted⟩ := hp.admitted log
  obtain ⟨later, hpermits', halone', hlater⟩ :=
    Schedule.acquire_iterate_eq_run (s := w.callers log) rfl cs.length
  refine ⟨calls ++ cs, moves ++ later, log ++ more, ?_, ?_, ?_, ?_, ?_⟩
  · rw [hp.trace, htrace, paidFor, paidFor, paidFor, List.flatMap_append]
  · exact Schedule.throughout_append.mpr ⟨hpermits, hrun ▸ hpermits'⟩
  · exact Schedule.throughout_append.mpr ⟨halone, hrun ▸ halone'⟩
  · rw [Schedule.run_append, hrun, ← hlater, hadmitted]
  · rw [List.length_append, List.length_append, hlength, hmore]

theorem takeTurns (h : Served rate clock w) (turns : List Turn) (r : Remote) :
    Served rate clock (after (takeTurns turns) r w) := by
  induction turns generalizing w with
  | nil => exact h
  | cons t rest ih =>
      obtain ⟨_, hpaid⟩ := paid_meet t.demand r (paused t.duration t.now w)
      exact ih ((h.pause t.duration t.now).of_paid hpaid)

end Served

/-- **Every call is paid for.** Whatever a session is asked for, one thing after the other, and whatever the
    service answers: in its trace tokens and calls alternate, beginning with a token and ending with a call; and
    clock and bucket are those of a run of callers who come one at a time to a bucket that was full at first, of
    whom exactly one is admitted for each call. Whatever the session is asked for next makes some calls more, and
    as many callers are admitted for them. -/
theorem alternates_takeTurns (r : Remote) (rate : Limiter.Rate) (now : Int) (clock : Nat)
    (directory : Directory) (turns : List Turn) (next : Demand) :
    let w := after (takeTurns turns) r (.start rate now clock directory)
    Alternates w.trace = true ∧
    (∃ calls moves log, w.trace = paidFor calls ∧ (Schedule.start rate clock).Permits moves ∧
      (Schedule.start rate clock).Throughout Schedule.Alone moves ∧
      (Schedule.start rate clock).run moves = w.callers log ∧ log.length = calls.length) ∧
    ∃ cs, Paid cs w (after next.meet r w) := by
  intro w
  have served : Served rate clock w := (served_start rate now clock directory).takeTurns turns r
  refine ⟨?_, served, paid_meet next r w⟩
  obtain ⟨calls, _, _, htrace, _⟩ := served
  rw [htrace]
  exact alternates_paidFor calls

/-- One token, which comes back in a second. -/
def oneASecond : Limiter.Rate := .make .exact 1 (1000 * Limiter.millisecond)

/-- Somebody asks for the presence of two users. -/
def twoPresences : List Turn :=
  [⟨0, 0, .perform ⟨{}, "U0", "me"⟩ (.presence "U1")⟩, ⟨0, 0, .perform ⟨{}, "U0", "me"⟩ (.presence "U2")⟩]

/-- Of two calls the first is paid for with the token that is there, the second with the one for which the session
    sleeps a second, and two callers were admitted. That both calls fail changes nothing. -/
theorem alternates_takeTurns_of_two :
    let w := after (takeTurns twoPresences) silent (.start oneASecond 0 0 {})
    w.trace = paidFor [.userPresence "U1", .userPresence "U2"] ∧ w.clock = 1000 * Limiter.millisecond ∧
    w.bucket = ⟨0, 1000 * Limiter.millisecond⟩ ∧
    ∃ moves log, (Schedule.start oneASecond 0).Permits moves ∧
      (Schedule.start oneASecond 0).run moves = w.callers log ∧ log.length = 2 := by
  intro w
  have htwo : w.trace = paidFor [.userPresence "U1", .userPresence "U2"] := rfl
  obtain ⟨_, ⟨calls, moves, log, htrace, hpermits, _, hrun, hlength⟩, _⟩ :=
    alternates_takeTurns silent oneASecond 0 0 {} twoPresences (.perform ⟨{}, "U0", "me"⟩ .setActive)
  have hcalls : 2 * calls.length = 2 * 2 := by
    rw [← length_paidFor, ← htrace, htwo]
    rfl
  refine ⟨htwo, by decide, by decide, moves, log, hpermits, hrun, ?_⟩
  rw [hlength]
  exact Nat.mul_left_cancel Nat.two_pos hcalls

end Session

end TeamChat
