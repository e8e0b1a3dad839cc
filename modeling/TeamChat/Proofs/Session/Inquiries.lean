import Mathlib.Data.List.Basic
import TeamChat.Proofs.Directory.Rows
import TeamChat.Proofs.Session.Names

/-!
# `Session.inquireAll`: names over whole runs

Users are looked up one after the other, while time passes and rows of the store go stale. All that matters of
a user is the first look-up: it finds a fresh row, or asks the service, and from then on the memory answers.
Look-ups of others in between change nothing (`untouched_resolve`). So every user is in one of four standings,
which no look-up leaves but for the first (`Standing.resolve`), and what is true of a run can be read off it
(`names_settled`).

## Contents
- `Session.Inquiry`, `inquireAll`, `answersTo`: look-ups one after the other, and their answers.
- `Session.Untouched`, `untouched_resolve`: what look-ups leave alone.
- `Session.Steady`, `steady_inquireAll`: runs that nothing stops.
- `Session.AskedOnce`, `Session.Standing`: what has become of a user; `Standing.resolve`, `standing_inquireAll`.
- `answersTo_inquireAll`: all answers about a user carry one name.
- `names_settled`: calls, answers and rows of a run.
-/

namespace TeamChat.Session

open Remote (ApiError Step)
open Directory (Row Unresolved)

/-! ## Look-ups one after the other -/

/-- A user who is looked up after a pause, at a time of the calendar. -/
structure Inquiry where
  duration : Nat
  now : Int
  user : String
deriving DecidableEq, Repr

/-- Looks a user up, after the pause. -/
def inquire (q : Inquiry) : Session (Except Unresolved String) := do
  pause q.duration q.now
  resolve q.user

/-- Looks users up one after the other. -/
def inquireAll : List Inquiry → Session (List (String × Except Unresolved String))
  | [] => return []
  | q :: rest => do
    let answer ← inquire q
    return (q.user, answer) :: (← inquireAll rest)

/-- The answers about a user. -/
def answersTo (user : String) (answers : List (String × Except Unresolved String)) :
    List (Except Unresolved String) :=
  (answers.filter fun a => a.1 = user).map (·.2)

/-- The call that asks about a user. -/
abbrev asking (user : String) : Step := .call (.userInfo user)

variable {r : Remote} {w w' : World} {user other name : String} {row : Option Row}

theorem after_inquire (q : Inquiry) :
    after (inquire q) r w = after (resolve q.user) r (paused q.duration q.now w) := by
  rw [inquire, after_bind, after_pause]

theorem value_inquire (q : Inquiry) :
    value (inquire q) r w = value (resolve q.user) r (paused q.duration q.now w) := by
  rw [inquire, value_bind, after_pause]

theorem after_inquireAll_cons (q : Inquiry) (rest : List Inquiry) :
    after (inquireAll (q :: rest)) r w = after (inquireAll rest) r (after (inquire q) r w) := by
  rw [inquireAll, after_bind, after_bind, after_pure]

theorem after_inquireAll_append (qs rest : List Inquiry) :
    after (inquireAll (qs ++ rest)) r w = after (inquireAll rest) r (after (inquireAll qs) r w) := by
  induction qs generalizing w with
  | nil => rfl
  | cons q qs ih => exact ih

theorem value_inquireAll_cons (q : Inquiry) (rest : List Inquiry) :
    value (inquireAll (q :: rest)) r w =
      (q.user, value (inquire q) r w) :: value (inquireAll rest) r (after (inquire q) r w) := by
  rw [inquireAll, value_bind, value_bind, value_pure]

theorem answersTo_cons (q : Inquiry) (rest : List Inquiry) :
    answersTo user (value (inquireAll (q :: rest)) r w) =
      (if q.user = user then [value (inquire q) r w] else []) ++
        answersTo user (value (inquireAll rest) r (after (inquire q) r w)) := by
  rw [value_inquireAll_cons]
  by_cases hq : q.user = user
  · simp [answersTo, hq]
  · simp [answersTo, hq]

/-! ## What look-ups leave alone -/

/-- What is known of a user is as it was, in memory and in the store, and nobody asked about the user. -/
structure Untouched (user : String) (w w' : World) : Prop where
  memory : w'.directory.memory.get? user = w.directory.memory.get? user
  row : w'.directory.row? user = w.directory.row? user
  trace : ∃ steps, w'.trace = w.trace ++ steps ∧ asking user ∉ steps

theorem Untouched.refl (user : String) (w : World) : Untouched user w w :=
  ⟨rfl, rfl, [], (List.append_nil _).symm, List.not_mem_nil⟩

theorem Untouched.trans {w'' : World} (h : Untouched user w w') (h' : Untouched user w' w'') :
    Untouched user w w'' := by
  obtain ⟨steps, hs, hn⟩ := h.trace
  obtain ⟨steps', hs', hn'⟩ := h'.trace
  refine ⟨h'.memory.trans h.memory, h'.row.trans h.row, steps ++ steps', ?_, ?_⟩
  · rw [hs', hs, List.append_assoc]
  · exact fun hm => (List.mem_append.mp hm).elim hn hn'

/-- A look-up leaves everybody else alone, and it leaves alone whoever is in memory. -/
theorem untouched_resolve (hw : w.directory.Works)
    (h : user ≠ other ∨ ∃ name, w.directory.memory.get? user = some name) :
    Untouched user w (after (resolve other) r w) := by
  obtain ⟨_, _, _, ha⟩ | ⟨name, hm, _, _, ha⟩ | ⟨hm, _, _, ha⟩ := resolve_cases r w other
  · rw [ha]
    exact .refl user w
  all_goals
    -- the memory does not hold the user who is looked up, so that is somebody else
    have hne : user ≠ other := by
      rintro rfl
      obtain hne | ⟨name, hk⟩ := h
      · exact hne rfl
      · exact absurd (hm.symm.trans hk) (by simp)
    rw [ha]
  · exact ⟨(Directory.get?_prime user).trans (if_neg hne), rfl, [], (List.append_nil _).symm, List.not_mem_nil⟩
  · refine ⟨(Directory.get?_settle _ user).trans (if_neg hne), ?_, [.acquire, asking other], ?_, ?_⟩
    · show (((w.directory.missed w.stamp other).settle w.stamp other (told r w other)).2).row? user = _
      rw [Directory.row?_settle (Directory.works_missed.mpr hw)]
      cases told r w other with
      | error e => rfl
      | ok u => exact if_neg hne
    · exact trace_called w _
    · simpa [asking] using hne

/-- No look-up mends the store, or breaks it. -/
theorem works_resolve (other : String) : (after (resolve other) r w).directory.Works ↔ w.directory.Works := by
  obtain ⟨_, _, _, ha⟩ | ⟨_, _, _, _, ha⟩ | ⟨_, _, _, ha⟩ := resolve_cases r w other
  · rw [ha]
  · rw [ha]
    exact .rfl
  · rw [ha]
    exact Directory.works_settle _

/-- The passing of time touches nobody. -/
theorem untouched_paused (q : Inquiry) : Untouched user w (paused q.duration q.now w) :=
  ⟨rfl, rfl, [], (List.append_nil _).symm, List.not_mem_nil⟩

theorem works_inquire (q : Inquiry) : (after (inquire q) r w).directory.Works ↔ w.directory.Works := by
  rw [after_inquire]
  exact works_resolve q.user

theorem untouched_inquire {q : Inquiry} (hw : w.directory.Works)
    (h : user ≠ q.user ∨ ∃ name, w.directory.memory.get? user = some name) :
    Untouched user w (after (inquire q) r w) := by
  have hp : (paused q.duration q.now w).directory.Works := hw
  rw [after_inquire]
  exact (untouched_paused q).trans (untouched_resolve hp h)

theorem works_inquireAll (qs : List Inquiry) :
    (after (inquireAll qs) r w).directory.Works ↔ w.directory.Works := by
  induction qs generalizing w with
  | nil => exact .rfl
  | cons q rest ih => exact ih.trans (works_inquire q)

/-- Whoever is not looked up, or is in memory, is left alone by a whole run. -/
theorem untouched_inquireAll (qs : List Inquiry) (hw : w.directory.Works)
    (h : (∀ q ∈ qs, q.user ≠ user) ∨ ∃ name, w.directory.memory.get? user = some name) :
    Untouched user w (after (inquireAll qs) r w) := by
  induction qs generalizing w with
  | nil => exact .refl user w
  | cons q rest ih =>
      have hq : Untouched user w (after (inquire q) r w) :=
        untouched_inquire hw (h.imp (fun hn => (hn q List.mem_cons_self).symm) id)
      rw [after_inquireAll_cons]
      refine hq.trans (ih ((works_inquire q).mpr hw) ?_)
      refine h.imp (fun hn p hp => hn p (List.mem_cons_of_mem q hp)) fun ⟨name, hk⟩ => ⟨name, ?_⟩
      rw [hq.memory, hk]

/-! ## Runs that nothing stops -/

/-- Nothing has stopped the program, and no row is from before 1970. -/
structure Steady (w : World) : Prop where
  running : w.directory.stopped = false
  rows : w.directory.SinceEpoch

theorem Steady.resolve (h : Steady w) (hnow : 0 ≤ w.stamp) (user : String) : Steady (after (resolve user) r w) := by
  obtain ⟨_, _, _, ha⟩ | ⟨_, _, _, _, ha⟩ | ⟨_, _, _, ha⟩ := resolve_cases r w user
  · rwa [ha]
  · rw [ha]
    exact ⟨h.running, h.rows⟩
  · rw [ha]
    refine ⟨?_, Directory.sinceEpoch_settle (d := w.directory.missed w.stamp user) h.rows hnow _⟩
    -- the row of the user is from 1970 or later, if there is one
    refine (Directory.stopped_settle _).trans ?_
    rw [Directory.missed, h.running, Directory.not_overflowsAt h.rows hnow]
    rfl

/-- **Nothing stops a run** by clocks and over rows from 1970 or later. -/
theorem steady_inquireAll {qs : List Inquiry} (h : Steady w) (hqs : ∀ q ∈ qs, 0 ≤ Int64.ofInt q.now) :
    Steady (after (inquireAll qs) r w) := by
  induction qs generalizing w with
  | nil => exact h
  | cons q rest ih =>
      obtain ⟨hq, hrest⟩ := List.forall_mem_cons.mp hqs
      have hp : Steady (paused q.duration q.now w) := ⟨h.running, h.rows⟩
      have hnext : Steady (after (inquire q) r w) := by
        rw [after_inquire]
        exact hp.resolve hq q.user
      exact ih hnext hrest

/-! ## What has become of a user -/

/-- The service was asked about a user once, and this is what it answered. -/
def AskedOnce (r : Remote) (user : String) (trace : List Step) (answer : Except ApiError Wire.User) : Prop :=
  ∃ before later, trace = before ++ asking user :: later ∧ asking user ∉ before ∧ asking user ∉ later ∧
    r.answer before (.userInfo user) = answer

section AskedOnce

variable {trace steps : List Step} {answer answer' : Except ApiError Wire.User}

theorem AskedOnce.append (h : AskedOnce r user trace answer) (hs : asking user ∉ steps) :
    AskedOnce r user (trace ++ steps) answer := by
  obtain ⟨before, later, ht, hb, hl, ha⟩ := h
  refine ⟨before, later ++ steps, ?_, hb, fun hm => (List.mem_append.mp hm).elim hl hs, ha⟩
  rw [ht, List.append_assoc, List.cons_append]

theorem AskedOnce.mem (h : AskedOnce r user trace answer) : asking user ∈ trace := by
  obtain ⟨before, later, ht, _⟩ := h
  rw [ht]
  exact List.mem_append_right before List.mem_cons_self

theorem AskedOnce.count_eq (h : AskedOnce r user trace answer) : trace.count (asking user) = 1 := by
  obtain ⟨before, later, ht, hb, hl, _⟩ := h
  rw [ht, List.count_append, List.count_cons_self, List.count_eq_zero_of_not_mem hb,
    List.count_eq_zero_of_not_mem hl]

/-- There is one answer only. -/
theorem AskedOnce.unique (h : AskedOnce r user trace answer) (h' : AskedOnce r user trace answer') :
    answer = answer' := by
  obtain ⟨before, later, ht, _, _, ha⟩ := h
  obtain ⟨before', later', ht', hb', hl', ha'⟩ := h'
  have hb := ((List.append_cons_inj_of_notMem hb' hl').mp (ht'.symm.trans ht)).1
  rw [← ha, ← ha', hb]

end AskedOnce

/-- What has become of a user whose row was `row` at first. -/
inductive Standing (r : Remote) (row : Option Row) (user : String) (w : World) : Prop
  /-- The user was not looked up. -/
  | unseen (memory : w.directory.memory.get? user = none) (asked : asking user ∉ w.trace)
      (kept : w.directory.row? user = row)
  /-- The name was found in the row. -/
  | stored {x : Row} (was : row = some x) (memory : w.directory.memory.get? user = some x.name)
      (asked : asking user ∉ w.trace) (kept : w.directory.row? user = row)
  /-- The service gave a name, which is in memory and in the row. -/
  | named {u : Wire.User} {t : Int64} (asked : AskedOnce r user w.trace (.ok u))
      (memory : w.directory.memory.get? user = some (u.displayName user))
      (written : w.directory.row? user = some ⟨u.displayName user, t⟩)
  /-- The service gave no name, and the placeholder is in memory. -/
  | refused {e : ApiError} (asked : AskedOnce r user w.trace (.error e))
      (memory : w.directory.memory.get? user = some (unknownUser user))
      (kept : w.directory.row? user = row)

namespace Standing

/-- Who is left alone keeps the standing. -/
theorem of_untouched (h : Standing r row user w) (hu : Untouched user w w') : Standing r row user w' := by
  obtain ⟨hm, hr, steps, ht, hs⟩ := hu
  have spared (hn : asking user ∉ w.trace) : asking user ∉ w'.trace := by
    rw [ht]
    exact fun hm => (List.mem_append.mp hm).elim hn hs
  cases h with
  | unseen memory asked kept => exact .unseen (hm.trans memory) (spared asked) (hr.trans kept)
  | stored was memory asked kept => exact .stored was (hm.trans memory) (spared asked) (hr.trans kept)
  | named asked memory written =>
      exact .named (ht ▸ asked.append hs) (hm.trans memory) (hr.trans written)
  | refused asked memory kept => exact .refused (ht ▸ asked.append hs) (hm.trans memory) (hr.trans kept)

/-- **The first look-up of a user.** A fresh row is found, and nobody is asked; otherwise the service is
    asked, and what it answers decides. -/
theorem resolve_unseen (hw : w.directory.Works) (hm : w.directory.memory.get? user = none)
    (ha : asking user ∉ w.trace) (hr : w.directory.row? user = row) :
    Standing r row user (after (resolve user) r w) := by
  obtain ⟨_, hm', _, _⟩ | ⟨name, _, hs, _, hw'⟩ | ⟨_, _, _, hw'⟩ := resolve_cases r w user
  · exact absurd (hm.symm.trans hm') (by simp)
  · rw [Directory.stored?_eq, hr, Option.map_eq_some_iff] at hs
    obtain ⟨x, hx, rfl⟩ := hs
    rw [hw']
    exact .stored (Option.filter_eq_some_iff.mp hx).1 ((Directory.get?_prime user).trans (if_pos rfl)) ha hr
  · let d := w.directory.missed w.stamp user
    have hmem : (d.settle w.stamp user (told r w user)).2.memory.get? user =
        some (Directory.nameOf (d.settle w.stamp user (told r w user)).1) :=
      (Directory.get?_settle _ user).trans (if_pos rfl)
    have hrow : (d.settle w.stamp user (told r w user)).2.row? user = _ :=
      Directory.row?_settle (Directory.works_missed.mpr hw) _ user
    have hask : AskedOnce r user (called (.userInfo user) w).trace (told r w user) :=
      ⟨w.trace ++ [.acquire], [], by simp [trace_called], by simpa using ha, List.not_mem_nil, rfl⟩
    rw [hw']
    -- what is in memory and in the row depends on the answer
    generalize told r w user = answer at hmem hrow hask ⊢
    cases answer with
    | error e => exact .refused hask hmem (hrow.trans hr)
    | ok u => exact .named hask hmem (hrow.trans (if_pos rfl))

/-- A look-up, of whomever, leaves every user in one of the standings. -/
theorem resolve (h : Standing r row user w) (hw : w.directory.Works) (other : String) :
    Standing r row user (after (Session.resolve other) r w) := by
  by_cases ho : user = other
  · subst ho
    cases hm : w.directory.memory.get? user with
    | some name => exact h.of_untouched (untouched_resolve hw (.inr ⟨name, hm⟩))
    | none =>
        cases h with
        | unseen memory asked kept => exact resolve_unseen hw memory asked kept
        | stored _ memory => exact absurd (hm.symm.trans memory) (by simp)
        | named _ memory => exact absurd (hm.symm.trans memory) (by simp)
        | refused _ memory => exact absurd (hm.symm.trans memory) (by simp)
  · exact h.of_untouched (untouched_resolve hw (.inl ho))

end Standing

theorem standing_inquireAll (h : Standing r row user w) (hw : w.directory.Works) (qs : List Inquiry) :
    Standing r row user (after (inquireAll qs) r w) := by
  induction qs generalizing w with
  | nil => exact h
  | cons q rest ih =>
      have hp : Standing r row user (paused q.duration q.now w) := h.of_untouched (untouched_paused q)
      have hq : Standing r row user (after (inquire q) r w) := by
        rw [after_inquire]
        exact hp.resolve hw q.user
      exact ih hq ((works_inquire q).mpr hw)

/-! ## Answers -/

theorem remembers_inquire (q : Inquiry) (r : Remote) (w : World) : Remembers w (after (inquire q) r w) := by
  rw [after_inquire]
  exact stepwise_remembers.resolve q.user r (paused q.duration q.now w)

/-- A run forgets no name. -/
theorem remembers_inquireAll (qs : List Inquiry) (r : Remote) (w : World) :
    Remembers w (after (inquireAll qs) r w) := by
  induction qs generalizing w with
  | nil => exact stepwise_remembers.refl w
  | cons q rest ih =>
      exact stepwise_remembers.trans (remembers_inquire q r w) (ih _)

/-- Whoever is in memory is answered from there. -/
theorem answersTo_of_mem (hm : w.directory.memory.get? user = some name) (qs : List Inquiry) :
    ∃ n, answersTo user (value (inquireAll qs) r w) = List.replicate n (.ok name) := by
  induction qs generalizing w with
  | nil => exact ⟨0, rfl⟩
  | cons q rest ih =>
      obtain ⟨n, hn⟩ := ih (remembers_inquire q r w user name hm)
      rw [answersTo_cons]
      by_cases hq : q.user = user
      · have hp : (paused q.duration q.now w).directory.memory.get? q.user = some name := hq ▸ hm
        have hv : value (inquire q) r w = .ok name := by
          rw [value_inquire]
          exact (value_resolve_of_mem r _ q.user hp).1
        refine ⟨n + 1, ?_⟩
        rw [if_pos hq, hv]
        exact congrArg (_ :: ·) hn
      · refine ⟨n, ?_⟩
        rw [if_neg hq]
        exact hn

/-- **All answers about a user carry one name**: that of the first of them, be it a name or the placeholder,
    and the later ones are no failures. The memory holds it in the end. -/
theorem answersTo_inquireAll (qs : List Inquiry) (r : Remote) (w : World) (user : String) :
    answersTo user (value (inquireAll qs) r w) = [] ∨
      ∃ first n, answersTo user (value (inquireAll qs) r w) =
          first :: List.replicate n (.ok (Directory.nameOf first)) ∧
        (after (inquireAll qs) r w).directory.memory.get? user = some (Directory.nameOf first) := by
  induction qs generalizing w with
  | nil => exact .inl rfl
  | cons q rest ih =>
      rw [answersTo_cons, after_inquireAll_cons]
      by_cases hq : q.user = user
      · have hm : (after (inquire q) r w).directory.memory.get? user =
            some (Directory.nameOf (value (inquire q) r w)) := by
          rw [after_inquire, value_inquire, get?_resolve, if_pos hq.symm]
        obtain ⟨n, hn⟩ := answersTo_of_mem (r := r) hm rest
        refine .inr ⟨value (inquire q) r w, n, ?_, remembers_inquireAll rest r _ user _ hm⟩
        rw [if_pos hq, hn]
        rfl
      · rw [if_neg hq]
        exact ih _

/-- Every answer about a user carries the name that is in memory in the end. -/
theorem nameOf_of_mem_answersTo {qs : List Inquiry} {answer : Except Unresolved String}
    (hm : (after (inquireAll qs) r w).directory.memory.get? user = some name)
    (ha : answer ∈ answersTo user (value (inquireAll qs) r w)) : Directory.nameOf answer = name := by
  obtain hnil | ⟨first, n, hall, hfirst⟩ := answersTo_inquireAll qs r w user
  · exact absurd ha (by rw [hnil]; exact List.not_mem_nil)
  · have hname : Directory.nameOf first = name := Option.some.inj (hfirst.symm.trans hm)
    rw [hall] at ha
    rcases List.mem_cons.mp ha with rfl | ha
    · exact hname
    · rw [List.eq_of_mem_replicate ha]
      exact hname

/-! ## Whole runs -/

/-- The world of a session that begins with nothing in memory, over a store that has its table. -/
def opened (rate : Limiter.Rate) (now : Int) (clock : Nat) (site : Directory.Site) (version : Int)
    (rows : Register Row) : World :=
  .start rate now clock { store := some ⟨site, ⟨version, .table rows⟩⟩ }

section Opened

variable (rate : Limiter.Rate) (now : Int) (clock : Nat) (site : Directory.Site) (version : Int)
  (rows : Register Row)

theorem works_opened : (opened rate now clock site version rows).directory.Works := rfl

/-- What has become of a user behind a run. -/
theorem standing_opened (r : Remote) (user : String) (qs : List Inquiry) :
    Standing r (rows.get? user) user (after (inquireAll qs) r (opened rate now clock site version rows)) :=
  standing_inquireAll (.unseen rfl List.not_mem_nil rfl) (works_opened rate now clock site version rows) qs

end Opened

/-- Nobody is asked about a user whose row is fresh when the user is looked up for the first time. -/
theorem not_asked_of_fresh {before later : List Inquiry} {q : Inquiry} {x : Row} (hw : w.directory.Works)
    (ha : asking user ∉ w.trace) (hq : q.user = user) (hb : ∀ p ∈ before, p.user ≠ user)
    (hx : (after (inquireAll before) r w).directory.row? user = some x)
    (hf : x.isFreshAt? (.ofInt q.now) = some true) :
    asking user ∉ (after (inquireAll (before ++ q :: later)) r w).trace := by
  obtain ⟨_, _, steps, ht, hs⟩ := untouched_inquireAll (r := r) before hw (.inl hb)
  have hw₁ := (works_inquireAll (r := r) before).mpr hw
  rw [after_inquireAll_append, after_inquireAll_cons]
  generalize after (inquireAll before) r w = w₁ at *
  have hstored : (paused q.duration q.now w₁).directory.stored? (.ofInt q.now) user = some x.name := by
    rw [Directory.stored?_eq]
    show ((w₁.directory.row? user).filter _).map _ = _
    rw [hx, Option.filter_some, if_pos (decide_eq_true hf), Option.map_some]
  have hknows : (paused q.duration q.now w₁).knows user = true := knows_of_stored hstored
  have htrace : (after (inquire q) r w₁).trace = w₁.trace := by
    rw [after_inquire, hq, trace_resolve, if_pos hknows, List.append_nil]
    rfl
  -- from then on the memory answers
  have hkept : ∃ name, (after (inquire q) r w₁).directory.memory.get? user = some name := by
    rw [after_inquire, get?_resolve, if_pos hq.symm]
    exact ⟨_, rfl⟩
  obtain ⟨_, _, steps', ht', hs'⟩ := untouched_inquireAll (r := r) later ((works_inquire q).mpr hw₁) (.inr hkept)
  rw [ht', htrace, ht]
  simp only [List.mem_append, not_or]
  exact ⟨⟨ha, hs⟩, hs'⟩

/-- **Names over a whole run**, from a memory that is empty and a store that works, while time passes and the
    service answers as it likes, and not always the same. It is asked about a user once at most, and not at
    all if the row is fresh at the first look-up. All answers about a user carry one name, and only the first
    may be a failure. If the service gave a name, the row holds it, and it is the name that was answered;
    otherwise the row is as it was, and after a failure the placeholder is what was answered. -/
theorem names_settled (r : Remote) (rate : Limiter.Rate) (now : Int) (clock : Nat) (site : Directory.Site)
    (version : Int) (rows : Register Row) (qs : List Inquiry) :
    let w := opened rate now clock site version rows
    let w' := after (inquireAll qs) r w
    let answers := value (inquireAll qs) r w
    w'.directory.Works ∧ ∀ user,
      (w'.trace.count (asking user) ≤ 1 ∧
        ∀ before q later x, qs = before ++ q :: later → q.user = user → (∀ p ∈ before, p.user ≠ user) →
          (after (inquireAll before) r w).directory.row? user = some x → x.isFreshAt? (.ofInt q.now) = some true →
          asking user ∉ w'.trace) ∧
      (answersTo user answers = [] ∨
        ∃ first n, answersTo user answers = first :: List.replicate n (.ok (Directory.nameOf first))) ∧
      ((∃ u t, AskedOnce r user w'.trace (.ok u) ∧ w'.directory.row? user = some ⟨u.displayName user, t⟩ ∧
          ∀ a ∈ answersTo user answers, Directory.nameOf a = u.displayName user) ∨
        w'.directory.row? user = rows.get? user ∧
          (asking user ∉ w'.trace ∨ (∃ e, AskedOnce r user w'.trace (.error e)) ∧
            ∀ a ∈ answersTo user answers, Directory.nameOf a = unknownUser user)) := by
  intro w w' answers
  have hw : w.directory.Works := works_opened rate now clock site version rows
  refine ⟨(works_inquireAll qs).mpr hw, fun user => ?_⟩
  have standing := standing_opened rate now clock site version rows r user qs
  refine ⟨⟨?_, ?_⟩, ?_, ?_⟩
  · have never (h : asking user ∉ w'.trace) : w'.trace.count (asking user) ≤ 1 := by
      rw [List.count_eq_zero_of_not_mem h]
      exact Nat.zero_le 1
    cases standing with
    | unseen _ asked => exact never asked
    | stored _ _ asked => exact never asked
    | named asked => exact Nat.le_of_eq asked.count_eq
    | refused asked => exact Nat.le_of_eq asked.count_eq
  · rintro before q later x rfl hq hb hx hf
    exact not_asked_of_fresh hw List.not_mem_nil hq hb hx hf
  · exact (answersTo_inquireAll qs r w user).imp id fun ⟨first, n, ha, _⟩ => ⟨first, n, ha⟩
  · cases standing with
    | unseen _ asked kept => exact .inr ⟨kept, .inl asked⟩
    | stored _ _ asked kept => exact .inr ⟨kept, .inl asked⟩
    | named asked memory written =>
        exact .inl ⟨_, _, asked, written, fun _ ha => nameOf_of_mem_answersTo memory ha⟩
    | refused asked memory kept =>
        exact .inr ⟨kept, .inr ⟨⟨_, asked⟩, fun _ ha => nameOf_of_mem_answersTo memory ha⟩⟩

/-- A service that calls everybody alice, and knows nothing else. -/
def friendly : Remote where
  answer _
    | .userInfo user => .ok { id := user, name := "alice" }
    | c => .error (.remote c.method "unknown_method")
  openStream _ := .error (.http .builder)
  horizon := 1

/-- A store that holds a name of the first of January 1970. -/
def bobStored : Register Row := .ofList [("U2", ⟨"bob", 0⟩)]

/-- On the next day one user is looked up twice, and in between the one whose name is stored. -/
def nextDay : List Inquiry :=
  [⟨0, 86400, "U1"⟩, ⟨0, 86400, "U2"⟩, ⟨1000, 86401, "U1"⟩]

/-- The service is asked about the first user only, and only once; its answer is given both times, and stands in the
    store from then on. -/
theorem names_settled_on_next_day :
    let w := opened (.make .exact 20 1000) 86400 0 .memory 1 bobStored
    let w' := after (inquireAll nextDay) friendly w
    let answers := value (inquireAll nextDay) friendly w
    w'.trace = [.acquire, asking "U1"] ∧ asking "U2" ∉ w'.trace ∧
    answers = [("U1", .ok "alice"), ("U2", .ok "bob"), ("U1", .ok "alice")] ∧
    w'.directory.row? "U1" = some ⟨"alice", 86400⟩ ∧ w'.directory.row? "U2" = some ⟨"bob", 0⟩ := by
  intro w w' answers
  obtain ⟨_, settled⟩ :=
    names_settled friendly (.make .exact 20 1000) 86400 0 .memory 1 bobStored nextDay
  have fresh : asking "U2" ∉ w'.trace :=
    (settled "U2").1.2 [⟨0, 86400, "U1"⟩] ⟨0, 86400, "U2"⟩ [⟨1000, 86401, "U1"⟩] ⟨"bob", 0⟩ rfl rfl (by decide)
      rfl (by decide)
  exact ⟨by decide, fresh, by decide, by decide, by decide⟩

end TeamChat.Session
