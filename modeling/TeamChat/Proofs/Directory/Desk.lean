import Mathlib.Data.List.Perm.Basic
import TeamChat.Proofs.Session.Inquiries

/-!
# `Directory.Desk`: look-ups that are under way at once

A name that is not found is asked for, and while the answer is on its way other look-ups begin, perhaps of the
same user. Each of them ends by settling its own answer, and looks at nothing that came meanwhile. So the
answer that is handled last decides what a user is called, and a failure that comes late puts the placeholder
into the place of a name (`failure_after_name`). There is an end to that: once anything is in memory no new
look-up of the user asks the service, so only those can still fail that were under way by then
(`last_answer_holds`). The row in the store is out of their reach.

## Contents
- `Desk`, `Desk.Move`, `Desk.run`: look-ups that begin, ask, and handle their answers, in any order.
- `Desk.run_resolve`, `Desk.run_inquireAll`: look-ups one after the other are one of these orders.
- `Desk.Effect`, `Desk.effect_apply`: all that one move can do for a user.
- `Desk.Follows`, `Desk.Since`, `Desk.Stored`, `Desk.Kept`: what every run preserves.
- `Desk.failure_after_name`, `Desk.last_answer_holds`: what late answers undo, and what they do not.
-/

namespace TeamChat.Directory

open Remote (ApiError)

/-- A look-up that found no name. It waits for a token, and once it has asked, for the answer. -/
structure Errand where
  user : String
  asked : Bool := false
deriving DecidableEq, Repr

/-- A directory, the look-ups that are under way, and the answers that were handled, oldest first. -/
structure Desk where
  directory : Directory
  underway : List Errand := []
  handled : List (String × Except ApiError Wire.User) := []

namespace Desk

/-! ## The desk -/

/-- What happens between two points at which a look-up waits: it begins, asks, or handles its answer. -/
inductive Move
  | lookUp (now : Int64) (user : String)
  | ask (i : Nat)
  | handle (i : Nat) (now : Int64) (answer : Except ApiError Wire.User)

/-- A look-up begins, and ends at once if the name is found. -/
def lookUp (now : Int64) (user : String) (d : Desk) : Desk :=
  match d.directory.find now user with
  | (some _, directory) => { d with directory := directory }
  | (none, directory) => { d with directory := directory, underway := d.underway ++ [⟨user, false⟩] }

/-- A look-up has its token, and asks the service. -/
def ask (i : Nat) (d : Desk) : Desk :=
  match d.underway[i]? with
  | some errand => { d with underway := d.underway.set i { errand with asked := true } }
  | none => d

/-- A look-up that has asked handles its answer, and is over. -/
def handle (i : Nat) (now : Int64) (answer : Except ApiError Wire.User) (d : Desk) : Desk :=
  match d.underway[i]? with
  | some ⟨user, true⟩ =>
    { directory := (d.directory.settle now user answer).2
      underway := d.underway.eraseIdx i
      handled := d.handled ++ [(user, answer)] }
  | _ => d

def apply (d : Desk) : Move → Desk
  | .lookUp now user => d.lookUp now user
  | .ask i => d.ask i
  | .handle i now answer => d.handle i now answer

/-- A desk at which nobody asks for anything yet. -/
def idle (directory : Directory) : Desk :=
  { directory }

/-- The desk after some moves. -/
def run (d : Desk) (moves : List Move) : Desk :=
  moves.foldl apply d

variable {d d' : Desk} {user : String}

theorem run_append (moves later : List Move) : d.run (moves ++ later) = (d.run moves).run later :=
  List.foldl_append

theorem lookUp_of_some {now : Int64} {name : String} {directory : Directory}
    (h : d.directory.find now user = (some name, directory)) :
    d.lookUp now user = { d with directory := directory } := by
  simp only [lookUp, h]

theorem lookUp_of_none {now : Int64} {directory : Directory}
    (h : d.directory.find now user = (none, directory)) :
    d.lookUp now user =
      { d with directory := directory, underway := d.underway ++ [⟨user, false⟩] } := by
  simp only [lookUp, h]

/-! ## Look-ups one after the other -/

section Sessions

open Session

variable (r : Remote) (w : World) (handled : List (String × Except ApiError Wire.User))

/-- The moves of a look-up that nothing comes between. -/
def alone (user : String) : List Move :=
  [.lookUp w.stamp user, .ask 0, .handle 0 w.stamp (told r w user)]

/-- **A look-up that nothing comes between** does what it does in a session. -/
theorem run_resolve (user : String) :
    ∃ handled', (Desk.mk w.directory [] handled).run (alone r w user) =
      ⟨(after (resolve user) r w).directory, [], handled'⟩ := by
  have first : (Desk.mk w.directory [] handled).run (alone r w user) =
      ((Desk.mk w.directory [] handled).lookUp w.stamp user).run
        [.ask 0, .handle 0 w.stamp (told r w user)] := rfl
  rw [first]
  obtain ⟨_, _, hf⟩ | ⟨_, _, _, hf⟩ | ⟨_, _, hf⟩ := find_cases w.stamp user w.directory
  · refine ⟨handled, ?_⟩
    rw [(resolve_of_find r w user hf).2, lookUp_of_some hf]
    rfl
  · refine ⟨handled, ?_⟩
    rw [(resolve_of_find r w user hf).2, lookUp_of_some hf]
    rfl
  · refine ⟨handled ++ [(user, told r w user)], ?_⟩
    rw [(resolve_of_find_none r w user hf).2, lookUp_of_none hf]
    rfl

/-- Look-ups one after the other are one of the orders in which they can come. -/
theorem run_inquireAll (qs : List Inquiry) :
    ∃ moves handled', (Desk.mk w.directory [] handled).run moves =
      ⟨(after (inquireAll qs) r w).directory, [], handled'⟩ := by
  induction qs generalizing w handled with
  | nil => exact ⟨[], handled, rfl⟩
  | cons q rest ih =>
      obtain ⟨first, hfirst⟩ := run_resolve r (paused q.duration q.now w) handled q.user
      obtain ⟨moves, handled', hrest⟩ := ih (after (inquire q) r w) first
      refine ⟨alone r (paused q.duration q.now w) q.user ++ moves, handled', ?_⟩
      rw [run_append, after_inquireAll_cons, ← hrest, after_inquire]
      exact congrArg (run · moves) hfirst

end Sessions

/-! ## One move -/

/-- The answers about a user that were handled. -/
def answersFor (user : String) (d : Desk) : List (Except ApiError Wire.User) :=
  (d.handled.filter fun a => a.1 = user).map (·.2)

/-- How many look-ups of a user are under way. -/
def waitingFor (user : String) (d : Desk) : Nat :=
  (d.underway.map (·.user)).count user

/-- What a user is called after an answer. -/
def shown (user : String) : Except ApiError Wire.User → String
  | .ok u => u.displayName user
  | .error _ => unknownUser user

theorem nameOf_settle (directory : Directory) (now : Int64) (answer : Except ApiError Wire.User) :
    nameOf (directory.settle now user answer).1 = shown user answer := by
  cases answer with
  | ok u => rfl
  | error e => rfl

/-- What a move does for a user. -/
inductive Effect (user : String) (d d' : Desk) : Prop
  /-- Nothing. -/
  | spared (memory : d'.directory.memory.get? user = d.directory.memory.get? user)
      (row : d.directory.Works → d'.directory.row? user = d.directory.row? user)
      (waiting : d'.waitingFor user = d.waitingFor user) (answers : d'.answersFor user = d.answersFor user)
  /-- A look-up finds the name in the store, or has to ask for it. -/
  | begun (unknown : d.directory.memory.get? user = none)
      (row : d'.directory.row? user = d.directory.row? user)
      (answers : d'.answersFor user = d.answersFor user)
  /-- A look-up that is under way handles its answer. -/
  | settled (now : Int64) (answer : Except ApiError Wire.User)
      (memory : d'.directory.memory.get? user = some (shown user answer))
      (row : d.directory.Works → d'.directory.row? user =
        match answer with
        | .ok u => some ⟨u.displayName user, now⟩
        | .error _ => d.directory.row? user)
      (waiting : d.waitingFor user = d'.waitingFor user + 1)
      (answers : d'.answersFor user = d.answersFor user ++ [answer])

/-- Look-ups that are under way keep their users, whether they have asked or not. -/
theorem users_set {l : List Errand} {i : Nat} {errand : Errand} (h : l[i]? = some errand) (asked : Bool) :
    (l.set i { errand with asked := asked }).map (·.user) = l.map (·.user) := by
  obtain ⟨hi, rfl⟩ := List.getElem?_eq_some_iff.mp h
  have hmap : i < (l.map (·.user)).length := by rwa [List.length_map]
  have hget : (l.map (·.user))[i] = l[i].user := List.getElem_map _
  rw [List.map_set, ← hget, List.set_getElem_self hmap]

theorem waitingFor_eraseIdx {i : Nat} {errand : Errand} (h : d.underway[i]? = some errand) (user : String) :
    d.waitingFor user =
      ((d.underway.eraseIdx i).map (·.user)).count user + if errand.user = user then 1 else 0 := by
  obtain ⟨hi, rfl⟩ := List.getElem?_eq_some_iff.mp h
  have hperm := ((List.getElem_cons_eraseIdx_perm hi).map (·.user)).count_eq user
  rw [waitingFor, ← hperm, List.map_cons, List.count_cons]
  simp only [beq_iff_eq]

theorem effect_lookUp (now : Int64) (other : String) : Effect user d (d.lookUp now other) := by
  obtain ⟨name, _, hf⟩ | ⟨name, hm, _, hf⟩ | ⟨hm, _, hf⟩ := find_cases now other d.directory
  · rw [lookUp_of_some hf]
    exact .spared rfl (fun _ => rfl) rfl rfl
  · rw [lookUp_of_some hf]
    by_cases ho : user = other
    · exact .begun (ho ▸ hm) rfl rfl
    · exact .spared ((get?_prime user).trans (if_neg ho)) (fun _ => rfl) rfl rfl
  · rw [lookUp_of_none hf]
    by_cases ho : user = other
    · exact .begun (ho ▸ hm) rfl rfl
    · refine .spared rfl (fun _ => rfl) ?_ rfl
      simp [waitingFor, List.count_append, Ne.symm ho]

theorem effect_ask (i : Nat) : Effect user d (d.ask i) := by
  unfold ask
  split
  · next he =>
      refine .spared rfl (fun _ => rfl) ?_ rfl
      rw [waitingFor, users_set he]
      rfl
  · exact .spared rfl (fun _ => rfl) rfl rfl

theorem effect_handle (i : Nat) (now : Int64) (answer : Except ApiError Wire.User) :
    Effect user d (d.handle i now answer) := by
  unfold handle
  split
  · next other he =>
      have hwait := waitingFor_eraseIdx he user
      by_cases ho : user = other
      · subst ho
        refine .settled now answer ?_ (fun hw => ?_) ?_ ?_
        · exact ((get?_settle answer user).trans (if_pos rfl)).trans (congrArg some (nameOf_settle _ now answer))
        · rw [row?_settle hw]
          cases answer with
          | ok u => exact if_pos rfl
          | error e => rfl
        · rw [hwait, if_pos rfl]
          rfl
        · simp [answersFor]
      · refine .spared ((get?_settle answer user).trans (if_neg ho)) (fun hw => ?_) ?_ ?_
        · rw [row?_settle hw]
          cases answer with
          | ok u => exact if_neg ho
          | error e => rfl
        · rw [hwait, if_neg (Ne.symm ho)]
          rfl
        · simp [answersFor, Ne.symm ho]
  · exact .spared rfl (fun _ => rfl) rfl rfl

/-- **One move** does one of these things for a user. -/
theorem effect_apply (m : Move) : Effect user d (d.apply m) := by
  cases m with
  | lookUp now other => exact effect_lookUp now other
  | ask i => exact effect_ask i
  | handle i now answer => exact effect_handle i now answer

/-- No move breaks the store. -/
theorem works_apply (hw : d.directory.Works) (m : Move) : (d.apply m).directory.Works := by
  cases m with
  | lookUp now other =>
      show (d.lookUp now other).directory.Works
      obtain ⟨_, _, hf⟩ | ⟨_, _, _, hf⟩ | ⟨_, _, hf⟩ := find_cases now other d.directory
      · rwa [lookUp_of_some hf]
      · rwa [lookUp_of_some hf]
      · rwa [lookUp_of_none hf]
  | ask i =>
      show (d.ask i).directory.Works
      unfold ask
      split
      · exact hw
      · exact hw
  | handle i now answer =>
      show (d.handle i now answer).directory.Works
      unfold handle
      split
      · exact (works_settle answer).mpr hw
      · exact hw

/-! ## Runs -/

/-- The memory holds what the last answer about the user left, if there was one. -/
def Follows (user : String) (d : Desk) : Prop :=
  ∀ answer, (d.answersFor user).getLast? = some answer →
    d.directory.memory.get? user = some (shown user answer)

theorem Effect.follows (h : Follows user d) (he : Effect user d d') : Follows user d' := by
  intro last hlast
  cases he with
  | spared memory _ _ answers => exact memory.trans (h last (answers ▸ hlast))
  | begun unknown _ answers =>
      -- nothing is in memory, so no answer was handled
      exact absurd (unknown.symm.trans (h last (answers ▸ hlast))) (by simp)
  | settled now answer memory _ _ answers =>
      rw [answers, List.getLast?_concat] at hlast
      rw [memory, Option.some.inj hlast]

/-- Once an answer about the user was handled, the memory holds the name of the last one, or the placeholder if
    that one was a failure. -/
theorem Follows.last_cases {answer : Except ApiError Wire.User} (h : Follows user d)
    (ha : answer ∈ d.answersFor user) :
    (∃ u, (d.answersFor user).getLast? = some (.ok u) ∧
      d.directory.memory.get? user = some (u.displayName user)) ∨
    ∃ e, (d.answersFor user).getLast? = some (.error e) ∧
      d.directory.memory.get? user = some (unknownUser user) := by
  cases hlast : (d.answersFor user).getLast? with
  | none => exact absurd (List.getLast?_eq_none_iff.mp hlast) (List.ne_nil_of_mem ha)
  | some last =>
      cases last with
      | ok u => exact .inl ⟨u, rfl, h _ hlast⟩
      | error e => exact .inr ⟨e, rfl, h _ hlast⟩

/-- Since then some answers about the user were handled, all of look-ups that were under way at that time. -/
structure Since (user : String) (d d' : Desk) : Prop where
  known : ∃ name, d'.directory.memory.get? user = some name
  handled : ∃ answers, d'.answersFor user = d.answersFor user ++ answers ∧
    answers.length + d'.waitingFor user = d.waitingFor user

theorem Effect.since {name : String} (hm : d.directory.memory.get? user = some name) (he : Effect user d d') :
    Since user d d' := by
  cases he with
  | spared memory _ waiting answers =>
      refine ⟨⟨name, memory.trans hm⟩, [], ?_, ?_⟩
      · rw [answers, List.append_nil]
      · rw [waiting, List.length_nil, Nat.zero_add]
  | begun unknown => exact absurd (unknown.symm.trans hm) (by simp)
  | settled now answer memory _ waiting answers =>
      exact ⟨⟨_, memory⟩, [answer], answers, by rw [waiting, List.length_singleton, Nat.add_comm]⟩

theorem Since.trans {d'' : Desk} (h : Since user d d') (h' : Since user d' d'') : Since user d d'' := by
  obtain ⟨_, answers, ha, hn⟩ := h
  obtain ⟨known, answers', ha', hn'⟩ := h'
  refine ⟨known, answers ++ answers', ?_, ?_⟩
  · rw [ha', ha, List.append_assoc]
  · rw [List.length_append, Nat.add_assoc, hn', hn]

/-- The row holds a name that was answered, if one was. -/
def Stored (user : String) (d : Desk) : Prop :=
  ∀ u, .ok u ∈ d.answersFor user →
    ∃ v t, .ok v ∈ d.answersFor user ∧ d.directory.row? user = some ⟨v.displayName user, t⟩

/-- The store works, and holds a name of the user that was answered, if one was. -/
def Kept (user : String) (d : Desk) : Prop :=
  d.directory.Works ∧ Stored user d

theorem Effect.stored (hw : d.directory.Works) (h : Stored user d) (he : Effect user d d') :
    Stored user d' := by
  cases he with
  | spared _ row _ answers =>
      unfold Stored
      rw [answers, row hw]
      exact h
  | begun _ row answers =>
      unfold Stored
      rw [answers, row]
      exact h
  | settled now answer _ row _ answers =>
      have hrow := row hw
      unfold Stored
      rw [answers, hrow]
      cases answer with
      | ok u =>
          intro _ _
          exact ⟨u, now, List.mem_append_right _ List.mem_cons_self, rfl⟩
      | error e =>
          -- a failure brings no name and leaves the row alone
          intro u hu
          obtain ⟨v, t, hv, hr⟩ := h u (by simpa using hu)
          exact ⟨v, t, List.mem_append_left _ hv, hr⟩

/-- What every move preserves, every run preserves. -/
theorem run_invariant {I : Desk → Prop} (step : ∀ d m, I d → I (d.apply m)) (h : I d) (moves : List Move) :
    I (d.run moves) := by
  induction moves generalizing d with
  | nil => exact h
  | cons m rest ih => exact ih (step d m h)

section Runs

variable (moves : List Move)

theorem follows_run (h : Follows user d) : Follows user (d.run moves) :=
  run_invariant (fun _ m h => (effect_apply m).follows h) h moves

theorem since_run (hm : ∃ name, d.directory.memory.get? user = some name) : Since user d (d.run moves) := by
  refine run_invariant (fun d' m h => ?_) ⟨hm, [], (List.append_nil _).symm, Nat.zero_add _⟩ moves
  obtain ⟨name, hname⟩ := h.known
  exact h.trans ((effect_apply m).since hname)

theorem kept_run (h : Kept user d) : Kept user (d.run moves) :=
  run_invariant (fun _ m h => ⟨works_apply h.1 m, (effect_apply m).stored h.1 h.2⟩) h moves

end Runs

/-! ## What late answers undo, and what they do not -/

/-- Two look-ups of one user begin before either has an answer. -/
def race : List Move :=
  [.lookUp 0 "U1", .lookUp 0 "U1", .ask 0, .ask 1]

def alice : Wire.User := { id := "U1", name := "alice" }

/-- The answer to a call that came too often. -/
def refusal : Except ApiError Wire.User := .error (.remote "users.info" "ratelimited")

theorem eq_alice {v : Wire.User} (h : .ok v ∈ [.ok alice, refusal]) : v = alice := by
  simpa [refusal] using h

/-- A directory over a store that is empty. -/
def fresh : Directory :=
  { store := some ⟨.memory, ⟨1, .table .empty⟩⟩ }

/-- **A failure that comes late undoes a name**: both look-ups have asked, the first answer brings the name, and
    the second one, which brings none, puts the placeholder in its place. -/
theorem failure_after_name :
    ¬ ∀ (start : Directory) (moves : List Move) (user : String) (u : Wire.User),
      .ok u ∈ ((idle start).run moves).answersFor user →
      ∃ v, .ok v ∈ ((idle start).run moves).answersFor user ∧
        ((idle start).run moves).directory.memory.get? user = some (v.displayName user) := by
  intro h
  let d := (idle fresh).run (race ++ [.handle 0 0 (.ok alice), .handle 0 0 refusal])
  have answers : d.answersFor "U1" = [.ok alice, refusal] := rfl
  have memory : d.directory.memory.get? "U1" = some "unknown (U1)" := rfl
  obtain ⟨v, hv, hname⟩ := h fresh _ "U1" alice (answers ▸ List.mem_cons_self)
  obtain rfl := eq_alice (answers ▸ hv)
  exact absurd (memory.symm.trans hname) (by decide)

/-- **What the last answer left holds.** Once a name was answered for a user, the memory holds at every later
    time what the answer that was handled last has left there: its name, or the placeholder if it was a failure.
    Whatever answers come since are those of look-ups that were under way by then. The row keeps a name that was
    answered, if the store works. -/
theorem last_answer_holds (start : Directory) (moves later : List Move) {user : String} {u : Wire.User}
    (h : .ok u ∈ ((idle start).run moves).answersFor user) :
    let d := (idle start).run moves
    let d' := d.run later
    (∃ answers, d'.answersFor user = d.answersFor user ++ answers ∧
        answers.length + d'.waitingFor user = d.waitingFor user) ∧
      ((∃ v, (d'.answersFor user).getLast? = some (.ok v) ∧
          d'.directory.memory.get? user = some (v.displayName user)) ∨
        ∃ e, (d'.answersFor user).getLast? = some (.error e) ∧
          d'.directory.memory.get? user = some (unknownUser user)) ∧
      (start.Works → ∃ v t, .ok v ∈ d'.answersFor user ∧
        d'.directory.row? user = some ⟨v.displayName user, t⟩) := by
  intro d d'
  have hd : Follows user d := follows_run moves fun _ hlast => nomatch hlast
  have known : ∃ name, d.directory.memory.get? user = some name := by
    obtain ⟨_, _, memory⟩ | ⟨_, _, memory⟩ := hd.last_cases h
    · exact ⟨_, memory⟩
    · exact ⟨_, memory⟩
  obtain ⟨_, answers, hanswers, hcount⟩ : Since user d d' := since_run later known
  have hu : .ok u ∈ d'.answersFor user := hanswers ▸ List.mem_append_left _ h
  refine ⟨⟨answers, hanswers, hcount⟩, (follows_run later hd).last_cases hu, fun hw => ?_⟩
  have kept : Kept user ((idle start).run (moves ++ later)) :=
    kept_run (moves ++ later) ⟨hw, fun _ hnone => absurd hnone List.not_mem_nil⟩
  rw [run_append] at kept
  exact kept.2 u hu

/-- The second look-up fails: the placeholder is in memory, and the row still holds the name. -/
theorem last_answer_holds_for_alice :
    let d := (idle fresh).run (race ++ [.handle 0 0 (.ok alice)])
    let d' := d.run [.handle 0 5 refusal, .lookUp 9 "U1"]
    .ok alice ∈ d.answersFor "U1" ∧ d'.directory.memory.get? "U1" = some (unknownUser "U1") ∧
      ∃ t, d'.directory.row? "U1" = some ⟨"alice", t⟩ := by
  intro d d'
  have hd : .ok alice ∈ d.answersFor "U1" := List.mem_cons_self
  have answers : d'.answersFor "U1" = [.ok alice, refusal] := rfl
  obtain ⟨_, last, stored⟩ := last_answer_holds fresh (race ++ [.handle 0 0 (.ok alice)])
    [.handle 0 5 refusal, .lookUp 9 "U1"] hd
  refine ⟨hd, ?_, ?_⟩
  · obtain ⟨v, hlast, _⟩ | ⟨_, _, memory⟩ := last
    · exact absurd (answers ▸ hlast : [Except.ok alice, refusal].getLast? = _) (by simp [refusal])
    · exact memory
  · obtain ⟨v, t, hv, row⟩ := stored rfl
    obtain rfl := eq_alice (answers ▸ hv)
    exact ⟨t, row⟩

end Desk

end TeamChat.Directory
