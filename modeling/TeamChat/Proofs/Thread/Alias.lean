import TeamChat.Proofs.Session.Messages
import TeamChat.Proofs.Session.Run

/-!
# `Thread.Table`: where an alias leads

Whenever a message is built from which a thread hangs, its alias goes into the table. An alias holds the
whole seconds of a timestamp only, and the table keeps one thread for each alias. So an alias leads to the
last thread that was shown under it (`lookup_shown`), which is the thread of the message that shows it
unless another thread of the same second was built since (`alias_not_unique`).

## Contents
- `Table.note`, `Table.noteAll`: the table after messages were built.
- `Thread.latest`, `lookup_noteAll`: the last message that shows an alias.
- `Session.Notes`: a computation notes the messages that it builds, and no other thread.
- `notes_buildMessage`, `notes_history`, `notes_performAll`: from one message to a run.
- `Service.alias_not_unique`, `Service.lookup_shown`: where an alias leads.
-/

namespace TeamChat

namespace Thread

/-! ## The table after messages were built -/

/-- The table after a message was built: the thread that hangs from it is in the table. -/
def Table.note (t : Table) (m : Message) : Table :=
  if m.startsThread then (t.register m.id).2 else t

/-- The table after messages were built, the first one first. -/
def Table.noteAll (t : Table) (ms : List Message) : Table :=
  ms.foldl Table.note t

/-- A message shows the alias of its own thread, if a thread hangs from it. -/
def Marked (m : Message) : Prop :=
  m.startsThread = true → m.thread = aliasOf m.id

/-- The last of the messages that show the alias of `m`: one of those that were built later, or itself. -/
def latest (m : Message) (later : List Message) : Message :=
  (later.filter fun m' => m'.thread = m.thread).getLast?.getD m

variable {t : Table} {a : String} {m : Message} {ms : List Message}

theorem lookup_note (hm : Marked m) (ha : a ≠ "") :
    (t.note m).lookup a = if m.thread = a then some m.id else t.lookup a := by
  unfold Table.note
  by_cases hs : m.startsThread = true
  · rw [if_pos hs, hm hs]
    show (Register.set t (aliasOf m.id) m.id).get? a = _
    rw [Register.get?_set]
    by_cases hc : aliasOf m.id = a
    · rw [if_pos hc, if_pos hc.symm]
    · rw [if_neg hc, if_neg (Ne.symm hc)]
      rfl
  · have he : m.thread = "" := by simpa [Message.startsThread] using hs
    rw [if_neg hs, he, if_neg (Ne.symm ha)]

/-- An alias leads to the last message that shows it. -/
theorem lookup_noteAll (hms : ∀ m ∈ ms, Marked m) (ha : a ≠ "") :
    (t.noteAll ms).lookup a =
      ((ms.filter fun m => m.thread = a).getLast?.map (·.id)).or (t.lookup a) := by
  induction ms generalizing t with
  | nil => rfl
  | cons m rest ih =>
      have hr : ∀ m ∈ rest, Marked m := fun m' h => hms m' (List.mem_cons_of_mem m h)
      show ((t.note m).noteAll rest).lookup a = _
      rw [ih hr, lookup_note (hms m List.mem_cons_self) ha, List.filter_cons]
      -- the first message counts only if no later one shows the alias
      by_cases hc : m.thread = a
      · rw [if_pos hc, if_pos (decide_eq_true hc), List.getLast?_cons]
        cases (rest.filter fun m => m.thread = a).getLast? with
        | none => rfl
        | some m' => rfl
      · rw [if_neg hc, if_neg (by simpa using hc)]

/-- The last message that shows an alias is one of those that show it. -/
theorem latest_mem (later : List Message) :
    (latest m later = m ∨ latest m later ∈ later) ∧ (latest m later).thread = m.thread := by
  unfold latest
  cases hl : (later.filter fun m' => m'.thread = m.thread).getLast? with
  | none => exact ⟨.inl rfl, rfl⟩
  | some m' =>
      have hm := List.mem_of_getLast? hl
      rw [List.mem_filter] at hm
      exact ⟨.inr hm.1, of_decide_eq_true hm.2⟩

theorem thread_ne_empty (hs : m.startsThread = true) : m.thread ≠ "" := by
  intro he
  simp [Message.startsThread, he] at hs

/-- The alias that a message shows leads to the last message that shows it since. -/
theorem lookup_noteAll_of_shown {earlier later : List Message} (hs : m.startsThread = true)
    (hms : ∀ m' ∈ earlier ++ m :: later, Marked m') :
    (t.noteAll (earlier ++ m :: later)).lookup m.thread = some (latest m later).id := by
  rw [lookup_noteAll hms (thread_ne_empty hs), List.filter_append, List.filter_cons,
    if_pos (decide_eq_true rfl), List.getLast?_append, List.getLast?_cons]
  rfl

end Thread

namespace Session

open Thread (Marked Table aliasOf)

variable {α β : Type}

/-! ## Computations that build messages -/

/-- A computation notes the threads of the messages that it builds, and no other, and each of these messages
    shows the alias of its own thread. -/
def Notes (x : Session α) (built : α → List Message) : Prop :=
  ∀ r w, (after x r w).threads = Table.noteAll w.threads (built (value x r w)) ∧
    ∀ m ∈ built (value x r w), Marked m

theorem notes_pure {a : α} {built : α → List Message} (hb : built a = []) : Notes (pure a) built := by
  intro r w
  rw [value_pure, hb]
  exact ⟨rfl, fun m hm => absurd hm List.not_mem_nil⟩

/-- What leaves the table alone may come first. -/
theorem notes_bind {x : Session α} {f : α → Session β} {built : β → List Message}
    (hx : Along (fun w w' => w'.threads = w.threads) x) (hf : ∀ a, Notes (f a) built) :
    Notes (x >>= f) built := by
  intro r w
  rw [value_bind, after_bind, ← hx r w]
  exact hf _ r _

/-- An answer may be given in another form. -/
theorem notes_map {x : Session α} {g : α → β} {b₁ : α → List Message} {b₂ : β → List Message}
    (hx : Notes x b₁) (hg : ∀ a, b₂ (g a) = b₁ a) : Notes (x >>= fun a => pure (g a)) b₂ := by
  intro r w
  rw [value_bind, after_bind, value_pure, after_pure, hg]
  exact hx r w

/-- What the first computation builds comes before what the second one builds. -/
theorem notes_append {γ : Type} {x : Session α} {y : Session β} {g : α → β → γ} {b₁ : α → List Message}
    {b₂ : β → List Message} {built : γ → List Message} (hx : Notes x b₁) (hy : Notes y b₂)
    (hg : ∀ a b, built (g a b) = b₁ a ++ b₂ b) :
    Notes (x >>= fun a => y >>= fun b => pure (g a b)) built := by
  intro r w
  obtain ⟨hxt, hxm⟩ := hx r w
  obtain ⟨hyt, hym⟩ := hy r (after x r w)
  simp only [value_bind, after_bind, value_pure, after_pure, hg]
  refine ⟨?_, fun m hm => ?_⟩
  · rw [hyt, hxt, Table.noteAll, Table.noteAll, Table.noteAll, List.foldl_append]
  · rcases List.mem_append.mp hm with hm | hm
    · exact hxm m hm
    · exact hym m hm

/-! ## Messages -/

theorem notes_buildMessage (emoji : Bool) (channel : String) (p : Wire.Post) :
    Notes (buildMessage emoji channel p) fun m => [m] := by
  intro r w
  refine ⟨?_, fun m hm hs => ?_⟩
  · show _ = Table.note w.threads _
    rw [threads_buildMessage, Table.note, startsThread_buildMessage, id_buildMessage]
  · rw [List.mem_singleton] at hm
    subst hm
    rw [startsThread_buildMessage] at hs
    rw [thread_buildMessage, id_buildMessage, if_pos hs]

theorem notes_buildMessages (emoji : Bool) (channel : String) (posts : List Wire.Post) :
    Notes (buildMessages emoji channel posts) id := by
  induction posts with
  | nil => exact notes_pure rfl
  | cons p rest ih => exact notes_append (notes_buildMessage emoji channel p) ih fun _ _ => rfl

/-! ## Operations -/

/-- The messages of a history in the order in which they were built. -/
theorem notes_history (emoji : Bool) (channel : String) (count days : Nat) :
    Notes (history emoji channel count days) fun answer => Service.builtOf (answer.mapError .api) := by
  refine notes_bind (stepwise_threads.get) fun w => notes_bind (stepwise_threads.call _) fun answer => ?_
  cases answer with
  | error e => exact notes_pure rfl
  | ok page =>
      refine notes_map (notes_buildMessages emoji channel page.items) fun ms => ?_
      exact List.reverse_reverse ms

theorem notes_messageById (emoji : Bool) (channel stamp : String) :
    Notes (messageById emoji channel stamp) fun answer => answer.toOption.join.toList := by
  refine notes_bind (stepwise_threads.call _) fun answer => ?_
  cases answer with
  | error e => exact notes_pure rfl
  | ok page =>
      simp only []
      cases page.items with
      | nil => exact notes_pure rfl
      | cons p rest => exact notes_map (notes_buildMessage emoji channel p) fun _ => rfl

theorem notes_ofEvent (emoji : Bool) (channel : String) (e : Wire.MessageEvent) :
    Notes (ofEvent emoji channel e) fun answer => answer.toOption.toList := by
  unfold ofEvent
  simp only []
  split
  · cases e.replacement with
    | none => exact notes_pure rfl
    | some p => exact notes_map (notes_buildMessage emoji channel _) fun _ => rfl
  · split
    · exact notes_pure rfl
    · exact notes_map (notes_buildMessage emoji channel _) fun _ => rfl

end Session

namespace Service

open Session
open Thread (Marked Table aliasOf latest)

theorem notes_found (s : Service) (channel stamp : String) :
    Notes (s.messageById channel stamp) fun answer => answer.toOption.join.toList := by
  refine notes_map (notes_messageById _ channel stamp) fun answer => ?_
  cases answer <;> rfl

theorem notes_perform (s : Service) (op : Operation) : Notes (s.perform op) id := by
  have quiet {α : Type} {x : Session α} (hx : Along (fun w w' => w'.threads = w.threads) x) :
      Notes (quietly x) id :=
    notes_bind hx fun _ => notes_pure rfl
  cases op with
  | loadChannels => exact quiet (stepwise_threads.loadChannels s)
  | fetchAll includePublic => exact quiet (stepwise_threads.fetchAll includePublic)
  | resolve user => exact quiet (stepwise_threads.resolve user)
  | presence user => exact quiet (stepwise_threads.presence user)
  | loadHistory channel =>
      exact notes_map (notes_map (notes_history _ channel _ _) fun _ => rfl) fun _ => rfl
  | buildHistory channel count days =>
      exact notes_map (notes_map (notes_history _ channel count days) fun _ => rfl) fun _ => rfl
  | messageById channel stamp => exact notes_map (notes_found s channel stamp) fun _ => rfl
  | ofEvent channel e => exact notes_map (notes_ofEvent _ channel e) fun _ => rfl
  | submit channel line => exact quiet (stepwise_threads.submit s channel line)
  | markAsRead channel => exact quiet (stepwise_threads.markAsRead s channel)
  | setActive => exact quiet (stepwise_threads.request _)
  | openEvents => exact quiet (stepwise_threads.openEvents s)

/-- **A run notes what it builds**: the table behind it is the table before it with the threads of all
    messages that were built, in the order in which they were built. -/
theorem notes_performAll (s : Service) (ops : List Operation) : Notes (s.performAll ops) id := by
  induction ops with
  | nil => exact notes_pure rfl
  | cons op rest ih => exact notes_append (notes_perform s op) ih fun _ _ => rfl

/-! ## Where an alias leads -/

section Shown

variable {s : Service} {r : Remote} {w : World} {ops : List Operation} {earlier later : List Message}
  {m : Message}

theorem marked_of_built (hb : value (s.performAll ops) r w = earlier ++ m :: later) :
    ∀ m' ∈ earlier ++ m :: later, Marked m' := by
  rw [← hb]
  exact (notes_performAll s ops r w).2

/-- At the end of a run the alias of a message leads to the last message that shows it. -/
theorem lookup_latest (hb : value (s.performAll ops) r w = earlier ++ m :: later)
    (hs : m.startsThread = true) :
    (after (s.performAll ops) r w).threads.lookup m.thread = some (latest m later).id := by
  rw [(notes_performAll s ops r w).1, id, hb]
  exact Thread.lookup_noteAll_of_shown hs (marked_of_built hb)

/-- The last message that shows an alias has a timestamp of the same second. -/
theorem aliasOf_latest (hb : value (s.performAll ops) r w = earlier ++ m :: later)
    (hs : m.startsThread = true) :
    aliasOf (latest m later).id = aliasOf m.id := by
  have hms := marked_of_built hb
  obtain ⟨hmem, hthread⟩ := Thread.latest_mem (m := m) later
  have hin : latest m later ∈ earlier ++ m :: later := by
    rcases hmem with he | hl
    · rw [he]
      exact List.mem_append_right _ List.mem_cons_self
    · exact List.mem_append_right _ (List.mem_cons_of_mem m hl)
  have hs' : (latest m later).startsThread = true := by
    unfold Message.startsThread
    rw [hthread]
    exact hs
  rw [← hms _ hin hs', hthread, hms m (List.mem_append_right _ List.mem_cons_self) hs]

end Shown

/-- A reply is posted in the thread that its alias leads to. -/
theorem trace_sendCommand {s : Service} {r : Remote} {w : World} {channel line word text stamp : String}
    (hl : Slash.parse line = .ok (.thread word text)) (hw : w.threads.lookup word = some stamp) :
    (after (s.sendCommand channel line) r w).trace =
      w.trace ++ [.acquire, .call (.postMessage ⟨channel, text, stamp, s.username⟩)] := by
  rw [(sendCommand_of_known s r channel hl hw).2]
  exact trace_called w _

/-- Somebody who is signed in. -/
def someone : Service := ⟨{}, "U1", "alice"⟩

/-- A post from which a thread hangs. -/
def threadPost (stamp : String) : Wire.Post := { stamp := stamp, threadStamp := stamp }

/-- A live event about such a post. -/
def threadIn (channel stamp : String) : Operation :=
  .ofEvent channel { channel := channel, post := threadPost stamp }

/-- The message that is built for such an event. -/
def threadMessage (channel stamp : String) (w : World) : Message :=
  value (buildMessage someone.settings.emoji channel (threadPost stamp)) silent w

/-- The world after such an event. -/
def threadWorld (channel stamp : String) (w : World) : World :=
  after (someone.perform (threadIn channel stamp)) silent w

section Threads

variable {channel stamp : String} {w : World}

theorem startsThread_threadPost (hs : stamp ≠ "") : (threadPost stamp).startsThread = true := by
  simp [Wire.Post.startsThread, threadPost, hs]

theorem startsThread_threadMessage (hs : stamp ≠ "") : (threadMessage channel stamp w).startsThread = true :=
  (startsThread_buildMessage ..).trans (startsThread_threadPost hs)

theorem id_threadMessage : (threadMessage channel stamp w).id = stamp := id_buildMessage ..

theorem thread_threadMessage (hs : stamp ≠ "") : (threadMessage channel stamp w).thread = aliasOf stamp := by
  unfold threadMessage
  rw [thread_buildMessage, if_pos (startsThread_threadPost hs)]
  rfl

theorem value_threadIn_cons (ops : List Operation) :
    value (someone.performAll (threadIn channel stamp :: ops)) silent w =
      threadMessage channel stamp w ::
        value (someone.performAll ops) silent (threadWorld channel stamp w) := rfl

end Threads

theorem aliasOf_same_second : aliasOf "100.000100" = aliasOf "100.000200" := by
  decide +kernel

/-- **Threads of one second share their alias**: once a message of the second thread was built, the alias
    that the message of the first one shows leads to the second. -/
theorem alias_not_unique :
    ¬ ∀ (s : Service) (r : Remote) (w : World) (ops : List Operation) (earlier later : List Message)
      (m : Message), value (s.performAll ops) r w = earlier ++ m :: later → m.startsThread = true →
      (after (s.performAll ops) r w).threads.lookup m.thread = some m.id := by
  intro h
  let ops := [threadIn "C1" "100.000100", threadIn "C2" "100.000200"]
  let m₁ := threadMessage "C1" "100.000100" outset
  let m₂ := threadMessage "C2" "100.000200" (threadWorld "C1" "100.000100" outset)
  have hb : value (someone.performAll ops) silent outset = [] ++ m₁ :: [m₂] := by
    rw [value_threadIn_cons, value_threadIn_cons]
    rfl
  have hs : m₁.startsThread = true := startsThread_threadMessage (by decide)
  have ht : m₂.thread = m₁.thread := by
    rw [thread_threadMessage (by decide), thread_threadMessage (by decide), aliasOf_same_second]
  have hl : latest m₁ [m₂] = m₂ := by
    unfold latest
    rw [List.filter_cons, if_pos (decide_eq_true ht)]
    rfl
  have found := lookup_latest hb hs
  have wanted := h someone silent outset ops [] [m₂] m₁ hb hs
  rw [found, hl, id_threadMessage, id_threadMessage] at wanted
  exact absurd wanted (by decide)

/-- **Where an alias leads.** For every message that a run built and that shows an alias: at the end of the
    run the alias leads to the message that was the last to show it. That is the message itself as long as no
    message of another thread shows the same alias later on, and it is one of the same second in any case. A
    reply that is sent with the alias is posted in the thread that it leads to. -/
theorem lookup_shown (s : Service) (r : Remote) (w : World) (ops : List Operation)
    {earlier later : List Message} {m : Message}
    (hb : value (s.performAll ops) r w = earlier ++ m :: later) (hs : m.startsThread = true) :
    let w' := after (s.performAll ops) r w
    w'.threads.lookup m.thread = some (latest m later).id ∧
    aliasOf (latest m later).id = aliasOf m.id ∧
    ((∀ m' ∈ later, m'.thread = m.thread → m'.id = m.id) →
      w'.threads.lookup m.thread = some m.id) ∧
    ∀ channel line text, Slash.parse line = .ok (.thread m.thread text) →
      (after (s.sendCommand channel line) r w').trace =
        w'.trace ++ [.acquire, .call (.postMessage ⟨channel, text, (latest m later).id, s.username⟩)] := by
  intro w'
  have found : w'.threads.lookup m.thread = some (latest m later).id := lookup_latest hb hs
  refine ⟨found, aliasOf_latest hb hs, fun hall => ?_, fun channel line text hl => trace_sendCommand hl found⟩
  obtain ⟨hmem, hthread⟩ := Thread.latest_mem (m := m) later
  rw [found]
  rcases hmem with he | hin
  · rw [he]
  · rw [hall _ hin hthread]

/-- Of three threads the first two share a second: the alias of the first leads to the second. -/
theorem lookup_second_of_three :
    ∃ (ops : List Operation) (m : Message), m.id = "100.000100" ∧ m.startsThread = true ∧
      (after (someone.performAll ops) silent outset).threads.lookup m.thread = some "100.000200" := by
  let ops := [threadIn "C1" "100.000100", threadIn "C2" "100.000200", threadIn "C1" "161.000000"]
  let w₁ := threadWorld "C1" "100.000100" outset
  let w₂ := threadWorld "C2" "100.000200" w₁
  let m₁ := threadMessage "C1" "100.000100" outset
  let m₂ := threadMessage "C2" "100.000200" w₁
  let m₃ := threadMessage "C1" "161.000000" w₂
  have hb : value (someone.performAll ops) silent outset = [] ++ m₁ :: [m₂, m₃] := by
    rw [value_threadIn_cons, value_threadIn_cons, value_threadIn_cons]
    rfl
  have hs : m₁.startsThread = true := startsThread_threadMessage (by decide)
  have h₁ : m₁.thread = aliasOf "100.000100" := thread_threadMessage (by decide)
  have h₂ : m₂.thread = m₁.thread := by
    rw [h₁, thread_threadMessage (by decide), aliasOf_same_second]
  have h₃ : m₃.thread ≠ m₁.thread := by
    rw [h₁, thread_threadMessage (by decide)]
    decide +kernel
  have hl : latest m₁ [m₂, m₃] = m₂ := by
    unfold latest
    rw [List.filter_cons, if_pos (decide_eq_true h₂), List.filter_cons, if_neg (by simpa using h₃)]
    rfl
  have found := (lookup_shown someone silent outset ops hb hs).1
  rw [hl] at found
  exact ⟨ops, m₁, id_threadMessage, hs, found.trans (congrArg some id_threadMessage)⟩

end Service

end TeamChat
