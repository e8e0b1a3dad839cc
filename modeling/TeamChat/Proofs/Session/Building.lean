import TeamChat.Proofs.Session.Run

/-!
# `Session.Building`: what building messages and signing in do to the world

Besides calls and look-ups, a session does three things to the world. A message from which a thread hangs is
registered, always by a timestamp that is not empty; signing in remembers the owner's name, and forgets all
threads. Nothing else is done by any operation. So a relation that these steps keep to, and that carries over
from one step to the next, is kept to by whole operations.

## Contents
- `Session.Building`: the relations that all steps of a session keep to.
- `Building.buildMessage`, `Building.history`, `Building.connect`, `Building.perform`: what is built from them.
-/

namespace TeamChat.Session

variable {R : World → World → Prop}

/-- A relation that calls and look-ups keep to, and all else that a session does to the world. -/
structure Building (R : World → World → Prop) : Prop extends Stepwise R where
  register : ∀ {stamp}, stamp ≠ "" → Along R (registerThread stamp)
  prime : ∀ user name, Along R (prime user name)
  clear : Along R clearThreads

/-- A thread hangs from posts only that have a timestamp. -/
theorem stamp_ne_empty {p : Wire.Post} (h : p.startsThread = true) : p.stamp ≠ "" := by
  intro hs
  rw [Wire.Post.startsThread, Bool.and_eq_true, decide_eq_true_eq] at h
  rw [h.2, hs] at h
  exact absurd h.1 (by decide)

namespace Building

variable (hR : Building R)

include hR

/-! ## Messages -/

theorem buildMessage (emoji : Bool) (channel : String) (p : Wire.Post) :
    Along R (buildMessage emoji channel p) := by
  refine hR.bind (hR.leaf emoji p) fun m => ?_
  split
  · next hp =>
      exact hR.bind (hR.register (stamp_ne_empty hp)) fun _ => hR.bind_pure (hR.threadParts emoji channel p.stamp)
  · exact hR.pure m

theorem buildMessages (emoji : Bool) (channel : String) (posts : List Wire.Post) :
    Along R (buildMessages emoji channel posts) := by
  induction posts with
  | nil => exact hR.pure _
  | cons p rest ih =>
      exact hR.bind (hR.buildMessage emoji channel p) fun _ => hR.bind_pure ih

theorem history (emoji : Bool) (channel : String) (count days : Nat) :
    Along R (history emoji channel count days) := by
  refine hR.bind hR.get fun w => hR.bind (hR.call _) fun answer => ?_
  cases answer with
  | error e => exact hR.pure _
  | ok page => exact hR.bind_pure (hR.buildMessages emoji channel page.items)

theorem messageById (emoji : Bool) (channel stamp : String) :
    Along R (messageById emoji channel stamp) := by
  refine hR.bind (hR.call _) fun answer => ?_
  cases answer with
  | error e => exact hR.pure _
  | ok page =>
      simp only []
      cases page.items with
      | nil => exact hR.pure _
      | cons p rest => exact hR.bind_pure (hR.buildMessage emoji channel p)

theorem ofEvent (emoji : Bool) (channel : String) (e : Wire.MessageEvent) :
    Along R (ofEvent emoji channel e) := by
  unfold Session.ofEvent
  simp only []
  split
  · cases e.replacement with
    | none => exact hR.pure _
    | some p => exact hR.bind_pure (hR.buildMessage emoji channel _)
  · split
    · exact hR.pure _
    · exact hR.bind_pure (hR.buildMessage emoji channel _)

/-! ## Signing in, and operations -/

theorem ownName (me : Remote.Identity) : Along R (ownName me) := by
  unfold Session.ownName
  split
  · exact hR.bind (hR.prime me.userId me.user) fun _ => hR.pure _
  · refine hR.bind (hR.resolve me.userId) fun found => ?_
    cases found with
    | error u => exact hR.pure _
    | ok name => exact hR.pure _

theorem connect (settings : Settings) : Along R (connect settings) := by
  refine hR.bind (hR.request .authTest) fun answer => ?_
  cases answer with
  | error e => exact hR.pure _
  | ok me =>
      refine hR.bind (hR.ownName me) fun _ => ?_
      refine hR.bind hR.clear fun _ => ?_
      exact hR.bind_pure (hR.request _)

theorem perform (s : Service) (op : Service.Operation) : Along R (s.perform op) := by
  have hs := hR.toStepwise
  cases op with
  | loadChannels => exact hs.bind_pure (hs.loadChannels s)
  | fetchAll includePublic => exact hs.bind_pure (hs.fetchAll includePublic)
  | resolve user => exact hs.bind_pure (hs.resolve user)
  | presence user => exact hs.bind_pure (hs.presence user)
  | loadHistory channel => exact hs.bind_pure (hs.bind_pure (hR.history _ channel _ _))
  | buildHistory channel count days => exact hs.bind_pure (hs.bind_pure (hR.history _ channel count days))
  | messageById channel stamp => exact hs.bind_pure (hs.bind_pure (hR.messageById _ channel stamp))
  | ofEvent channel e => exact hs.bind_pure (hR.ofEvent _ channel e)
  | submit channel line => exact hs.bind_pure (hs.submit s channel line)
  | markAsRead channel => exact hs.bind_pure (hs.markAsRead s channel)
  | setActive => exact hs.bind_pure (hs.request _)
  | openEvents => exact hs.bind_pure (hs.openEvents s)

end Building

end TeamChat.Session
