import TeamChat.Proofs.Session.Names

/-!
# `Service.run`: operations of a service, one after the other

A service that is signed in is asked for channels, histories and single messages, and is given lines to
send. A run is any sequence of such operations; what counts of it here is which messages it built, in the
order in which they were built, and the world behind it.

## Contents
- `Service.Operation`, `Service.perform`: an operation, and the messages that it builds.
- `Service.performAll`: a run.
- `sendCommand_of_known`, `sendCommand_of_unknown`, `sendCommand_of_refused`: what becomes of a reply.
- `Stepwise.fetchAll`, `Stepwise.submit` and others: the operations that build nothing are made of calls and
  look-ups.
-/

namespace TeamChat.Service

open Session

/-- What a service is asked to do. -/
inductive Operation
  | loadChannels
  | fetchAll (includePublic : Bool)
  | resolve (user : String)
  | presence (user : String)
  | loadHistory (channel : String)
  | buildHistory (channel : String) (count days : Nat)
  | messageById (channel stamp : String)
  | ofEvent (channel : String) (e : Wire.MessageEvent)
  | submit (channel line : String)
  | markAsRead (channel : String)
  | setActive
  | openEvents

/-- The messages of a history in the order in which they were built: the newest was built first. -/
def builtOf : Except ClientError History → List Message
  | .ok h => h.messages.reverse
  | .error _ => []

/-- Carries out what builds no message. -/
def quietly {α : Type} (x : Session α) : Session (List Message) := do
  let _ ← x
  return []

/-- Carries an operation out. The answer is what was built, in the order in which it was built. -/
def perform (s : Service) : Operation → Session (List Message)
  | .loadChannels => quietly s.loadChannels
  | .fetchAll includePublic => quietly (Session.fetchAll includePublic)
  | .resolve user => quietly (Session.resolve user)
  | .presence user => quietly (Session.presence user)
  | .loadHistory channel => return builtOf (← s.loadHistory channel)
  | .buildHistory channel count days => return builtOf (← s.buildHistory channel count days)
  | .messageById channel stamp => return (← s.messageById channel stamp).toOption.join.toList
  | .ofEvent channel e => return (← s.ofEvent channel e).toOption.toList
  | .submit channel line => quietly (s.submit channel line)
  | .markAsRead channel => quietly (s.markAsRead channel)
  | .setActive => quietly Session.setActive
  | .openEvents => quietly s.openEvents

/-- Carries operations out one after the other. The answer is all that was built. -/
def performAll (s : Service) : List Operation → Session (List Message)
  | [] => return []
  | op :: rest => do
    let built ← s.perform op
    return built ++ (← s.performAll rest)

/-! ## Commands that reply -/

section Commands

variable (s : Service) (r : Remote) {w : World} (channel : String) {line word text stamp : String}

/-- What becomes of a reply depends on where its alias leads to. -/
theorem sendCommand_thread (hl : Slash.parse line = .ok (.thread word text)) :
    s.sendCommand channel line r w = (match w.threads.lookup word with
      | none => return .error (.unknownThread word)
      | some stamp => s.sendReply channel stamp text : Session (Except ClientError Unit)) r w := by
  unfold sendCommand
  rw [hl]
  rfl

/-- A reply is posted in the thread that its alias leads to. -/
theorem sendCommand_of_known (hl : Slash.parse line = .ok (.thread word text))
    (hw : w.threads.lookup word = some stamp) :
    value (s.sendCommand channel line) r w = (r.answer (w.trace ++ [.acquire])
        (.postMessage ⟨channel, text, stamp, s.username⟩)).mapError .api ∧
      after (s.sendCommand channel line) r w = called (.postMessage ⟨channel, text, stamp, s.username⟩) w := by
  unfold value after
  rw [sendCommand_thread s r channel hl, hw]
  refine ⟨?_, rfl⟩
  exact congrArg (Except.mapError ClientError.api) (value_call r w (.postMessage ⟨channel, text, stamp, s.username⟩))

theorem sendCommand_of_unknown (hl : Slash.parse line = .ok (.thread word text))
    (hw : w.threads.lookup word = none) :
    value (s.sendCommand channel line) r w = .error (.unknownThread word) ∧
      after (s.sendCommand channel line) r w = w := by
  unfold value after
  rw [sendCommand_thread s r channel hl, hw]
  exact ⟨rfl, rfl⟩

theorem sendCommand_of_refused (w : World) {e : Slash.Refusal} (hl : Slash.parse line = .error e) :
    value (s.sendCommand channel line) r w = .error (.slash e) ∧ after (s.sendCommand channel line) r w = w := by
  unfold sendCommand
  rw [hl]
  exact ⟨rfl, rfl⟩

end Commands

end TeamChat.Service

namespace TeamChat.Session.Stepwise

variable {R : World → World → Prop} (hR : Stepwise R)

include hR

/-! ## Operations that build nothing -/

theorem request (c : Remote.Call) : Along R (request c) :=
  hR.bind_pure (hR.call c)

theorem aggregate (includePublic membersOnly : Bool) (cs : List Wire.Conversation) :
    Along R (aggregate includePublic membersOnly cs) :=
  hR.bind_pure (hR.gather _ cs [] [])

theorem fetchAll (includePublic : Bool) : Along R (fetchAll includePublic) := by
  refine hR.bind (hR.collect fun _ => hR.call _) fun answer => ?_
  cases answer with
  | error e => exact hR.pure _
  | ok cs => exact hR.bind_pure (hR.aggregate includePublic true cs)

theorem fetchForUser : Along R fetchForUser := by
  refine hR.bind (hR.collect fun _ => hR.call _) fun answer => ?_
  cases answer with
  | error e => exact hR.pure _
  | ok cs => exact hR.bind_pure (hR.aggregate true false cs)

theorem loadChannels (s : Service) : Along R s.loadChannels := by
  unfold Service.loadChannels
  refine hR.bind ?_ fun answer => ?_
  · split
    · exact hR.fetchForUser
    · exact hR.fetchAll true
  · cases answer with
    | error e => exact hR.pure _
    | ok entries => exact hR.pure _

theorem presence (user : String) : Along R (presence user) :=
  hR.bind_pure (hR.call _)

theorem sendCommand (s : Service) (channel line : String) : Along R (s.sendCommand channel line) := by
  unfold Service.sendCommand
  cases Slash.parse line with
  | error e => exact hR.pure _
  | ok c =>
      cases c with
      | thread word text =>
          refine hR.bind (hR.bind_pure hR.get) fun found => ?_
          cases found with
          | none => exact hR.pure _
          | some stamp => exact hR.request _
      | remote name text => exact hR.request _

theorem submit (s : Service) (channel line : String) : Along R (s.submit channel line) := by
  unfold Service.submit
  split
  · exact hR.sendCommand s channel line
  · exact hR.request _

theorem markAsRead (s : Service) (channel : String) : Along R (s.markAsRead channel) :=
  hR.bind hR.get fun _ => hR.request _

theorem openEvents (s : Service) : Along R s.openEvents := by
  refine hR.bind (hR.request _) fun answer => ?_
  cases answer with
  | error e => exact hR.pure _
  | ok url => exact hR.bind (fun _ w => hR.refl w) fun _ => hR.pure _

end TeamChat.Session.Stepwise
