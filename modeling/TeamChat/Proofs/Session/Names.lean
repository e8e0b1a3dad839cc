import TeamChat.Proofs.Session.Along

/-!
# `Session.resolve`: what looking up a user does

A name is found in memory, or in the store, or asked for. `resolve_cases` says all that a look-up can do;
what it leaves in memory, in the table of threads and in the trace follows from it. In all three cases the
memory then holds the name that was answered, or the placeholder, and it keeps it: looking up the same user
again changes nothing.

## Contents
- `Directory.find_cases`, `Session.resolve_cases`: the three outcomes of a look-up.
- `Session.get?_resolve`, `Session.trace_resolve`: memory and trace behind it.
- `stepwise_threads`, `stepwise_remembers`: calls and look-ups leave threads alone and forget no name.
- `Session.lookedUp`, `trace_lookedUp`, `get?_namesOf`: several users, one after the other.
- `Session.silent`, `outset`: a session in which nothing is known.
-/

namespace TeamChat

open Remote (ApiError)

namespace Directory

variable {d : Directory} {user name : String} {now : Int64}

@[simp] theorem get?_prime (other : String) :
    (d.prime user name).memory.get? other =
      if other = user then some name else d.memory.get? other :=
  Register.get?_set d.memory user other name

@[simp] theorem memory_persist : (d.persist now user name).memory = d.memory := by
  unfold persist
  split
  · rfl
  · split <;> rfl

@[simp] theorem stopped_persist : (d.persist now user name).stopped = d.stopped := by
  unfold persist
  split
  · rfl
  · split <;> rfl

/-- No answer stops the program. -/
theorem stopped_settle (answer : Except ApiError Wire.User) :
    (d.settle now user answer).2.stopped = d.stopped := by
  cases answer with
  | ok u => exact stopped_persist
  | error e => rfl

/-- A name is in memory; or it is fresh in the store, and is remembered; or it is not found. -/
theorem find_cases (now : Int64) (user : String) (d : Directory) :
    (∃ name, d.memory.get? user = some name ∧ d.find now user = (some name, d)) ∨
    (∃ name, d.memory.get? user = none ∧ d.stored? now user = some name ∧
      d.find now user = (some name, d.prime user name)) ∨
    (d.memory.get? user = none ∧ d.stored? now user = none ∧ d.find now user = (none, d.missed now user)) := by
  cases hm : d.memory.get? user with
  | some name => exact .inl ⟨name, rfl, by simp only [find, hm]⟩
  | none =>
      cases hs : d.stored? now user with
      | some name => exact .inr (.inl ⟨name, rfl, rfl, by simp only [find, hm, hs]⟩)
      | none => exact .inr (.inr ⟨rfl, rfl, by simp only [find, hm, hs]⟩)

/-- What is answered does not depend on what was noted. -/
theorem settle_missed (answer : Except ApiError Wire.User) (other : String) :
    ((d.missed now other).settle now user answer).1 = (d.settle now user answer).1 := by
  cases answer with
  | ok u => rfl
  | error e => rfl

/-- The memory holds what is answered, be it a name or the placeholder. -/
theorem get?_settle (answer : Except ApiError Wire.User) (other : String) :
    (d.settle now user answer).2.memory.get? other =
      if other = user then some (nameOf (d.settle now user answer).1) else d.memory.get? other := by
  cases answer with
  | ok u => simp only [settle, memory_persist, get?_prime, nameOf]
  | error e => simp only [settle, get?_prime, nameOf]

/-- Who has no name is called by the placeholder. -/
theorem placeholder_settle {answer : Except ApiError Wire.User} {u : Unresolved}
    (h : (d.settle now user answer).1 = .error u) : u.placeholder = unknownUser user := by
  cases answer with
  | ok v => exact absurd h (by simp [settle])
  | error cause =>
      have he : u = ⟨unknownUser user, cause⟩ := (Except.error.inj h).symm
      rw [he]

end Directory

/-- The name of a user is in memory, or fresh in the store. -/
def World.knows (w : World) (user : String) : Bool :=
  (w.directory.find w.stamp user).1.isSome

namespace Session

variable (r : Remote) (w : World) (user : String)

/-! ## One user -/

theorem value_lookUp : value (lookUp user) r w = (w.directory.find w.stamp user).1 := rfl

theorem after_lookUp :
    after (lookUp user) r w = { w with directory := (w.directory.find w.stamp user).2 } := rfl

/-- A name that is found is answered. -/
theorem resolve_of_find {name : String} {d : Directory}
    (h : w.directory.find w.stamp user = (some name, d)) :
    value (resolve user) r w = .ok name ∧ after (resolve user) r w = { w with directory := d } := by
  unfold resolve
  rw [value_bind, after_bind, value_lookUp, after_lookUp, h]
  exact ⟨rfl, rfl⟩

/-- What the service answers when it is asked about a user, once a token was taken. -/
def told : Except ApiError Wire.User :=
  r.answer (w.trace ++ [.acquire]) (.userInfo user)

/-- For a name that is not found the service is asked, and its answer is settled. -/
theorem resolve_of_find_none {d : Directory} (h : w.directory.find w.stamp user = (none, d)) :
    value (resolve user) r w = (d.settle w.stamp user (told r w user)).1 ∧
      after (resolve user) r w = { called (.userInfo user) w with
        directory := (d.settle w.stamp user (told r w user)).2 } := by
  have hs : (called (.userInfo user) w).stamp = w.stamp := by
    unfold called
    rw [acquire_eq w]
    rfl
  have hv : value (lookUp user) r w = none := by rw [value_lookUp, h]
  have ha : after (lookUp user) r w = { w with directory := d } := by rw [after_lookUp, h]
  have hc : after (call (.userInfo user)) r { w with directory := d } =
      { called (.userInfo user) w with directory := d } := called_directory w d _
  have ht : value (call (.userInfo user)) r { w with directory := d } = told r w user := value_call r _ _
  unfold resolve
  rw [value_bind, after_bind, hv, ha]
  simp only [value_bind, after_bind, hc, ht]
  rw [← hs]
  exact ⟨rfl, rfl⟩

/-- **All that a look-up can do.** The name is in memory, and nothing changes; or it is fresh in the store,
    and is remembered; or the service is asked, and its answer is settled. -/
theorem resolve_cases :
    (∃ name, w.directory.memory.get? user = some name ∧
      value (resolve user) r w = .ok name ∧ after (resolve user) r w = w) ∨
    (∃ name, w.directory.memory.get? user = none ∧ w.directory.stored? w.stamp user = some name ∧
      value (resolve user) r w = .ok name ∧
      after (resolve user) r w = { w with directory := w.directory.prime user name }) ∨
    (w.directory.memory.get? user = none ∧ w.directory.stored? w.stamp user = none ∧
      value (resolve user) r w = (w.directory.settle w.stamp user (told r w user)).1 ∧
      after (resolve user) r w = { called (.userInfo user) w with
        directory := ((w.directory.missed w.stamp user).settle w.stamp user (told r w user)).2 }) := by
  obtain ⟨name, hm, hf⟩ | ⟨name, hm, hs, hf⟩ | ⟨hm, hs, hf⟩ := Directory.find_cases w.stamp user w.directory
  · obtain ⟨hv, ha⟩ := resolve_of_find r w user hf
    exact .inl ⟨name, hm, hv, ha⟩
  · obtain ⟨hv, ha⟩ := resolve_of_find r w user hf
    exact .inr (.inl ⟨name, hm, hs, hv, ha⟩)
  · obtain ⟨hv, ha⟩ := resolve_of_find_none r w user hf
    exact .inr (.inr ⟨hm, hs, hv.trans (Directory.settle_missed _ _), ha⟩)

/-- **The memory behind a look-up** holds what was answered, be it a name or the placeholder, and for all
    other users what it held before. -/
theorem get?_resolve (other : String) :
    (after (resolve user) r w).directory.memory.get? other =
      if other = user then some (Directory.nameOf (value (resolve user) r w))
      else w.directory.memory.get? other := by
  obtain ⟨name, hm, hv, ha⟩ | ⟨name, _, _, hv, ha⟩ | ⟨_, _, hv, ha⟩ := resolve_cases r w user
  · rw [ha, hv]
    by_cases ho : other = user
    · rw [if_pos ho, ho, hm]
      rfl
    · rw [if_neg ho]
  · rw [ha, hv]
    exact Directory.get?_prime other
  · rw [ha, hv, ← Directory.settle_missed _ user]
    exact Directory.get?_settle (told r w user) other

/-- A user who has no name is remembered by the placeholder. -/
theorem get?_resolve_error {u : Directory.Unresolved} (h : value (resolve user) r w = .error u) :
    (after (resolve user) r w).directory.memory.get? user = some (unknownUser user) := by
  rw [get?_resolve, if_pos rfl, h]
  obtain ⟨_, _, hv, _⟩ | ⟨_, _, _, hv, _⟩ | ⟨_, _, hv, _⟩ := resolve_cases r w user
  · exact absurd (h.symm.trans hv) (by simp)
  · exact absurd (h.symm.trans hv) (by simp)
  · exact congrArg some (Directory.placeholder_settle (hv.symm.trans h))

theorem threads_resolve : (after (resolve user) r w).threads = w.threads := by
  obtain ⟨_, _, _, ha⟩ | ⟨_, _, _, _, ha⟩ | ⟨_, _, _, ha⟩ := resolve_cases r w user
  · rw [ha]
  · rw [ha]
  · rw [ha]
    exact threads_called w (.userInfo user)

/-- The service is asked about a user exactly if the name is not known. -/
theorem trace_resolve :
    (after (resolve user) r w).trace =
      w.trace ++ if w.knows user then [] else [.acquire, .call (.userInfo user)] := by
  obtain ⟨_, hm, _, ha⟩ | ⟨_, hm, hs, _, ha⟩ | ⟨hm, hs, _, ha⟩ := resolve_cases r w user
  · simp [ha, World.knows, Directory.find, hm]
  · simp [ha, World.knows, Directory.find, hm, hs]
  · simp [ha, World.knows, Directory.find, hm, hs]

theorem knows_of_stored {w : World} {user name : String}
    (h : w.directory.stored? w.stamp user = some name) : w.knows user = true := by
  unfold World.knows Directory.find
  cases w.directory.memory.get? user with
  | some found => rfl
  | none => rw [h]; rfl

/-! ## Relations that look-ups keep to -/

/-- Neither calls nor look-ups touch the table of threads. -/
theorem stepwise_threads : Stepwise fun w w' => w'.threads = w.threads where
  refl _ := rfl
  trans h₁ h₂ := h₂.trans h₁
  call c _ w := threads_called w c
  resolve user r w := threads_resolve r w user

/-- What is in memory stays there as it is. -/
def Remembers (w w' : World) : Prop :=
  ∀ user name, w.directory.memory.get? user = some name → w'.directory.memory.get? user = some name

/-- A name that is in memory is answered. -/
theorem value_resolve_of_mem {name : String} (h : w.directory.memory.get? user = some name) :
    value (resolve user) r w = .ok name ∧ after (resolve user) r w = w :=
  resolve_of_find r w user (by simp only [Directory.find, h])

/-- Neither calls nor look-ups forget a name, or put another in its place. -/
theorem stepwise_remembers : Stepwise Remembers where
  refl _ _ _ h := h
  trans h₁ h₂ user name h := h₂ user name (h₁ user name h)
  call c r w user name h := by rwa [after_call, directory_called]
  resolve user r w other name h := by
    rw [get?_resolve]
    by_cases ho : other = user
    · subst ho
      rw [if_pos rfl, (value_resolve_of_mem r w other h).1]
      rfl
    · rwa [if_neg ho]

/-! ## Several users -/

/-- The world after some users were looked up, one after the other. -/
def lookedUp (r : Remote) (users : List String) (w : World) : World :=
  users.foldl (fun w user => after (resolve user) r w) w

theorem lookedUp_cons (users : List String) :
    lookedUp r (user :: users) w = lookedUp r users (after (resolve user) r w) := rfl

theorem remembers_lookedUp (users : List String) : Remembers w (lookedUp r users w) := by
  induction users generalizing w with
  | nil => exact stepwise_remembers.refl w
  | cons user rest ih => exact stepwise_remembers.trans (stepwise_remembers.resolve user r w) (ih _)

/-- The service is asked about some of the users that are looked up, and about nobody else. -/
theorem trace_lookedUp (users : List String) :
    ∃ asked : List String, asked.Sublist users ∧ (lookedUp r users w).trace =
      w.trace ++ asked.flatMap fun user => [.acquire, .call (.userInfo user)] := by
  induction users generalizing w with
  | nil => exact ⟨[], List.Sublist.refl _, (List.append_nil _).symm⟩
  | cons user rest ih =>
      obtain ⟨asked, hsub, ht⟩ := ih (after (resolve user) r w)
      rw [trace_resolve] at ht
      by_cases hk : w.knows user = true
      · rw [if_pos hk, List.append_nil] at ht
        exact ⟨asked, hsub.cons user, ht⟩
      · rw [if_neg hk, List.append_assoc] at ht
        exact ⟨user :: asked, hsub.cons_cons user, ht⟩

theorem after_namesOf (users : List String) : after (namesOf users) r w = lookedUp r users w := by
  induction users generalizing w with
  | nil => rfl
  | cons user rest ih => exact ih (after (resolve user) r w)

/-- The names that are found out are those that are remembered from then on. -/
theorem get?_namesOf {users : List String} (hu : user ∈ users) :
    ∃ name, (value (namesOf users) r w).get? user = some name ∧
      (lookedUp r users w).directory.memory.get? user = some name := by
  induction users generalizing w with
  | nil => exact absurd hu List.not_mem_nil
  | cons first rest ih =>
      have hset : (value (namesOf (first :: rest)) r w).get? user =
          if user = first then some (Directory.nameOf (value (resolve first) r w))
          else (value (namesOf rest) r (after (resolve first) r w)).get? user :=
        Register.get?_set _ first user _
      rw [hset, lookedUp_cons]
      by_cases he : user = first
      · -- what was answered for the first user is still remembered behind the others
        rw [if_pos he]
        refine ⟨_, rfl, remembers_lookedUp r _ rest user _ ?_⟩
        rw [get?_resolve, if_pos he]
      · rw [if_neg he]
        rcases List.mem_cons.mp hu with hu | hu
        · exact absurd hu he
        · exact ih _ hu

/-! ## A session in which nothing is known -/

/-- A service that answers nothing. -/
def silent : Remote where
  answer _ _ := .error (.http .builder)
  openStream _ := .error (.http .builder)
  horizon := 1

/-- The world of a session that begins with nothing known. -/
def outset : World := .start (.make .exact 20 1000) 0 0 {}

end Session

end TeamChat
