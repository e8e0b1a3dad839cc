import TeamChat.Session.Service

/-!
# `Session.Along`: what computations do to the world

A computation answers, and leaves a world behind. Most statements about what it leaves behind hold for one
reason only: they hold of every call and of every look-up of a user, and they carry over from one step to
the next. `Stepwise R` says so of a relation `R` between worlds; `Along R` then holds of everything that is
built from calls and look-ups.

## Contents
- `Session.value`, `Session.after`: the answer, and the world behind it, with their equations.
- `Session.pause`: time passes between computations.
- `Session.Along`: a computation moves the world along a relation.
- `Session.Chained`, `Session.Stepwise`: relations that carry over from one step to the next, and those of them
  that calls and look-ups keep to.
- `Chained.collect`, `Stepwise.format`, `Stepwise.threadParts`, `Stepwise.gather`: what is built from them.
-/

namespace TeamChat.Session

variable {α β : Type} {R : World → World → Prop}

/-! ## Answers and worlds -/

/-- The answer of a computation. -/
def value (x : Session α) (r : Remote) (w : World) : α := (x r w).1

/-- The world that a computation leaves behind. -/
def after (x : Session α) (r : Remote) (w : World) : World := (x r w).2

section Equations

variable (r : Remote) (w : World)

@[simp] theorem value_pure (a : α) : value (pure a) r w = a := rfl

@[simp] theorem after_pure (a : α) : after (pure a) r w = w := rfl

@[simp] theorem value_get : value (get : Session World) r w = w := rfl

@[simp] theorem after_get : after (get : Session World) r w = w := rfl

@[simp] theorem value_bind (x : Session α) (f : α → Session β) :
    value (x >>= f) r w = value (f (value x r w)) r (after x r w) := rfl

@[simp] theorem after_bind (x : Session α) (f : α → Session β) :
    after (x >>= f) r w = after (f (value x r w)) r (after x r w) := rfl

/-- The world in which a token was taken and a call was made. -/
def called (c : Remote.Call) (w : World) : World :=
  ((w.acquire.record .acquire).record (.call c))

/-- Taking a token costs time and a token, and nothing else. -/
theorem acquire_eq : w.acquire = { w with clock := w.acquire.clock, bucket := w.acquire.bucket } := by
  simp only [World.acquire]
  split <;> rfl

@[simp] theorem threads_called (c : Remote.Call) : (called c w).threads = w.threads := by
  unfold called
  rw [acquire_eq w]
  rfl

@[simp] theorem directory_called (c : Remote.Call) : (called c w).directory = w.directory := by
  unfold called
  rw [acquire_eq w]
  rfl

/-- A call does not look at what is known. -/
theorem called_directory (directory : Directory) (c : Remote.Call) :
    called c { w with directory := directory } = { called c w with directory := directory } := by
  simp only [called, World.acquire, World.record]
  split <;> rfl

@[simp] theorem trace_called (c : Remote.Call) :
    (called c w).trace = w.trace ++ [.acquire, .call c] := by
  unfold called
  rw [acquire_eq w]
  simp [World.record]

@[simp] theorem after_call (c : Remote.Call) : after (call c) r w = called c w := rfl

/-- A call is answered once a token was taken. -/
@[simp] theorem value_call (c : Remote.Call) : value (call c) r w = r.answer (w.trace ++ [.acquire]) c := by
  show r.answer (w.acquire.record .acquire).trace c = _
  rw [acquire_eq w]
  rfl

end Equations

/-! ## Time between computations -/

/-- The world after a pause, at which the calendar shows another time. -/
def paused (duration : Nat) (now : Int) (w : World) : World :=
  { w with clock := w.clock + duration, now := now }

/-- Time passes. -/
def pause (duration : Nat) (now : Int) : Session Unit :=
  modify (paused duration now)

@[simp] theorem after_pause (duration : Nat) (now : Int) (r : Remote) (w : World) :
    after (pause duration now) r w = paused duration now w := rfl

/-! ## Moving along a relation -/

/-- A computation moves the world along `R`, whatever the service answers. -/
def Along (R : World → World → Prop) (x : Session α) : Prop :=
  ∀ r w, R w (after x r w)

/-- A relation that carries over from one step to the next. -/
structure Chained (R : World → World → Prop) : Prop where
  refl : ∀ w, R w w
  trans : ∀ {w₁ w₂ w₃}, R w₁ w₂ → R w₂ w₃ → R w₁ w₃

/-- A relation that calls and look-ups keep to, and that carries over from one step to the next. -/
structure Stepwise (R : World → World → Prop) : Prop extends Chained R where
  call : ∀ c, Along R (call c)
  resolve : ∀ user, Along R (resolve user)

namespace Chained

variable (hR : Chained R)

include hR

theorem pure (a : α) : Along R (Pure.pure a : Session α) :=
  fun _ w => hR.refl w

theorem get : Along R (MonadState.get : Session World) :=
  fun _ w => hR.refl w

theorem bind {x : Session α} {f : α → Session β} (hx : Along R x) (hf : ∀ a, Along R (f a)) :
    Along R (x >>= f) :=
  fun r w => hR.trans (hx r w) (hf _ r _)

/-- What is done with an answer alone moves nothing. -/
theorem bind_pure {x : Session α} {f : α → β} (hx : Along R x) :
    Along R (x >>= fun a => Pure.pure (f a)) :=
  hR.bind hx fun _ => hR.pure _

/-! ## Listings -/

theorem collectFrom {fetch : String → Session (Except Remote.ApiError (Remote.Page α))}
    (hf : ∀ cursor, Along R (fetch cursor)) (fuel : Nat) (cursor : String) :
    Along R (collectFrom fetch fuel cursor) := by
  induction fuel generalizing cursor with
  | zero => exact hR.pure _
  | succ fuel ih =>
      refine hR.bind (hf cursor) fun answer => ?_
      cases answer with
      | error e => exact hR.pure _
      | ok page =>
          simp only []
          split
          · exact hR.pure _
          · refine hR.bind (ih page.next) fun rest => ?_
            cases rest with
            | error e => exact hR.pure _
            | ok items => exact hR.pure _

theorem collect {fetch : String → Session (Except Remote.ApiError (Remote.Page α))}
    (hf : ∀ cursor, Along R (fetch cursor)) : Along R (collect fetch) :=
  fun r w => hR.collectFrom hf r.horizon "" r w

end Chained

namespace Stepwise

variable (hR : Stepwise R)

include hR

/-! ## Names and bodies -/

theorem nameOf (user : String) : Along R (nameOf user) :=
  hR.bind_pure (hR.resolve user)

theorem namesOf (users : List String) : Along R (namesOf users) := by
  induction users with
  | nil => exact hR.pure _
  | cons user rest ih => exact hR.bind (hR.nameOf user) fun _ => hR.bind_pure ih

theorem format (emoji : Bool) (text : String) : Along R (format emoji text) :=
  hR.bind_pure (hR.namesOf _)

/-! ## Messages -/

theorem author (p : Wire.Post) : Along R (author p) := by
  unfold Session.author
  split
  · exact hR.nameOf p.user
  · split
    · exact hR.pure _
    · split
      · exact hR.pure _
      · exact hR.pure _

theorem leaf (emoji : Bool) (p : Wire.Post) : Along R (leaf emoji p) :=
  hR.bind (hR.author p) fun _ => hR.bind_pure (hR.format emoji p.text)

theorem fetchReplies (channel stamp : String) : Along R (fetchReplies channel stamp) :=
  hR.collect fun _ => hR.call _

theorem replyParts (emoji : Bool) (posts : List Wire.Post) : Along R (replyParts emoji posts) := by
  induction posts with
  | nil => exact hR.pure _
  | cons p rest ih => exact hR.bind (hR.leaf emoji p) fun _ => hR.bind_pure ih

theorem threadParts (emoji : Bool) (channel stamp : String) :
    Along R (threadParts emoji channel stamp) := by
  refine hR.bind (hR.fetchReplies channel stamp) fun answer => ?_
  cases answer with
  | error e => exact hR.pure _
  | ok posts => exact hR.replyParts emoji _

/-! ## Channels -/

theorem directEntry (c : Wire.Conversation) : Along R (directEntry c) := by
  refine hR.bind (hR.resolve c.user) fun answer => ?_
  cases answer with
  | error u => exact hR.pure _
  | ok name =>
      simp only []
      split
      · exact hR.pure _
      · exact hR.pure _

theorem gather (listedAs : Wire.Conversation → Option Channel.Kind) (cs : List Wire.Conversation)
    (ids users : List String) : Along R (gather listedAs ids users cs) := by
  induction cs generalizing ids users with
  | nil => exact hR.pure _
  | cons c rest ih =>
      unfold Session.gather
      split
      · exact ih ids users
      · split
        · exact ih ids users
        · split
          · split
            · exact ih ids users
            · refine hR.bind (hR.directEntry c) fun found => ?_
              cases found with
              | none => exact ih ids users
              | some e => exact hR.bind_pure (ih _ _)
          · exact hR.bind_pure (ih _ _)

end Stepwise

end TeamChat.Session
