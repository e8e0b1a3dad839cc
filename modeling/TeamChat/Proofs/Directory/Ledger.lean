import Mathlib.Data.Finmap
import TeamChat.Proofs.Directory.Age

/-!
# `Directory.Ledger`: a file that is opened again and again

A file is visited many times: it is opened, which brings its database up to date, it is written and read, and it is
closed. Between two visits its version may be lost, as when a process ends after the table was made and before the
version was set; the table is then made once more, which changes nothing in one that is there. So what is answered over
all visits is what a finite map answers that knows nothing of files (`visits_refine`).

A row that has expired is left out when a fresh one is asked for, and only then. Its age is computed in 64 bits: where
that is too little the program stops, and with it the visits (`oldest_row_stops`). That happens at rows from before 1970
only (`Ledger.within_sinceEpoch`).

## Contents
- `Use`, `Visit`, `runVisits`: what is asked of a file, and what is answered.
- `Ledger`, `Ledger.accounts`, `Ledger.Within`: what a finite map answers, and where 64 bits are enough.
- `Disk.Keeps`, `Answered`, `run_use`, `run_visit`: what each use and each visit preserves.
- `oldest_row_stops`, `visits_refine`: the answers of a file.
-/

namespace TeamChat.Directory

/-! ## Visits to a file -/

/-- What is asked of an open store. -/
inductive Use
  | upsert (user : String) (row : Row)
  | get (user : String)
  | getFresh (now : Int64) (user : String)
  | count

/-- What is answered. -/
inductive Reply
  | done
  | row (found : Option Row)
  | number (count : Nat)
deriving DecidableEq, Repr

/-- What happens to a file from one opening to the next: its version is lost or it is not, and then the store is opened,
    used and closed. -/
structure Visit where
  losesVersion : Bool
  uses : List Use

/-- The version that is recorded after the opening, and what is answered from then on. -/
structure Account where
  version : Int
  replies : List Reply
deriving DecidableEq, Repr

/-- One use of a store, with what is answered. -/
def Store.use (s : Store) : Use → Except Fault (Reply × Store)
  | .upsert user row => ((s.update (Database.upsert user row)).map fun s => (.done, s)).mapError .refused
  | .get user => ((s.database.get user).map fun found => (.row found, s)).mapError .refused
  | .getFresh now user => (s.database.getFresh now user).map fun found => (.row found, s)
  | .count => (s.database.count.map fun n => (.number n, s)).mapError .refused

/-- Uses one after the other. -/
def Store.useAll : List Use → Store → Except Fault (List Reply × Store)
  | [], s => .ok ([], s)
  | u :: us, s => do
    let (reply, s) ← s.use u
    let (replies, s) ← useAll us s
    return (reply :: replies, s)

/-- A file whose version has fallen back to zero. -/
def Disk.loseVersion : Disk → Disk
  | .database d => .database (d.setVersion 0)
  | disk => disk

/-- One visit to a file. -/
def Visit.run (path : String) (v : Visit) (disk : Disk) : Except Fault (Account × Disk) := do
  let opened ← (Store.openAt (.file path) (if v.losesVersion then disk.loseVersion else disk)).mapError .refused
  let (replies, used) ← opened.useAll v.uses
  return (⟨opened.database.version, replies⟩, used.close)

/-- Visits to one file, one after the other. -/
def runVisits (path : String) : List Visit → Disk → Except Fault (List Account × Disk)
  | [], disk => .ok ([], disk)
  | v :: vs, disk => do
    let (account, disk) ← v.run path disk
    let (accounts, disk) ← runVisits path vs disk
    return (account :: accounts, disk)

/-! ## The finite map -/

/-- Rows by user. -/
abbrev Ledger := Finmap fun _ : String => Row

namespace Ledger

/-- What is answered. -/
def reply (l : Ledger) : Use → Reply
  | .upsert _ _ => .done
  | .get user => .row (l.lookup user)
  | .getFresh now user => .row ((l.lookup user).filter fun row => isFresh (row.age now))
  | .count => .number l.keys.card

/-- The rows after a use: one is written, or none. -/
def after (l : Ledger) : Use → Ledger
  | .upsert user row => l.insert user row
  | _ => l

/-- What is answered to uses one after the other. -/
def replies : List Use → Ledger → List Reply
  | [], _ => []
  | u :: us, l => l.reply u :: replies us (l.after u)

/-- The rows after some visits. They depend on nothing but the uses. -/
def afterVisits (vs : List Visit) (l : Ledger) : Ledger :=
  (vs.flatMap Visit.uses).foldl after l

/-- What is answered at visits one after the other, each of which finds version 1. -/
def accounts : List Visit → Ledger → List Account
  | [], _ => []
  | v :: vs, l => ⟨1, replies v.uses l⟩ :: accounts vs (v.uses.foldl after l)

/-- A use for which 64 bits are enough: if a fresh row is asked for, they can hold the age of the one that is there. -/
def Within (l : Ledger) : Use → Prop
  | .getFresh now user => ∀ row ∈ l.lookup user, Fits (row.age now)
  | _ => True

/-- Uses one after the other for all of which 64 bits are enough. -/
def AllWithin : List Use → Ledger → Prop
  | [], _ => True
  | u :: us, l => l.Within u ∧ AllWithin us (l.after u)

theorem allWithin_append {us more : List Use} {l : Ledger} :
    AllWithin (us ++ more) l ↔ AllWithin us l ∧ AllWithin more (us.foldl after l) := by
  induction us generalizing l with
  | nil => exact (iff_of_eq (true_and _)).symm
  | cons u us ih => exact (and_congr_right fun _ => ih).trans and_assoc.symm

end Ledger

/-! ## Rows in a file -/

variable {disk : Disk} {rows : Register Row} {l : Ledger}

/-- The rows of a table are those of a ledger, each of them once. -/
def Records (rows : Register Row) (l : Ledger) : Prop :=
  (∀ user, rows.get? user = l.lookup user) ∧ rows.size = l.keys.card

theorem records_empty : Records .empty ∅ :=
  ⟨fun _ => rfl, rfl⟩

/-- A row that is written takes the place of the one that its user had. -/
theorem records_set (h : Records rows l) (user : String) (row : Row) :
    Records (rows.set user row) (l.insert user row) := by
  obtain ⟨hlookup, hsize⟩ := h
  constructor
  · intro other
    rw [Register.get?_set]
    split
    · next heq => rw [heq, Finmap.lookup_insert]
    · next hne => rw [hlookup, Finmap.lookup_insert_of_ne l hne]
  · have hkeys : (l.insert user row).keys = insert user l.keys := by
      ext other
      rw [Finmap.mem_keys, Finmap.mem_insert, Finset.mem_insert, Finmap.mem_keys]
    rw [Register.size_set, hkeys, Finset.card_insert_eq_ite, hsize, hlookup]
    simp only [Finmap.lookup_isSome, Finmap.mem_keys]
    split <;> rfl

/-- A file holds the rows of a ledger. Its version is recorded, or it was lost. -/
def Disk.Keeps (l : Ledger) : Disk → Prop
  | .empty => l = ∅
  | .database d => (d.version = 0 ∨ d.version = 1) ∧ ∃ rows, d.users = .table rows ∧ Records rows l
  | _ => False

/-- A version that is lost takes no row with it. -/
theorem keeps_loseVersion (h : disk.Keeps l) : disk.loseVersion.Keeps l := by
  cases disk with
  | database d => exact ⟨.inl rfl, h.2⟩
  | _ => exact h

/-- The store of a file with its version and rows. -/
def storeOf (path : String) (rows : Register Row) : Store :=
  ⟨.file path, ⟨1, .table rows⟩⟩

/-- A store that is closed leaves its rows behind. -/
theorem keeps_close (path : String) (h : Records rows l) : (storeOf path rows).close.Keeps l :=
  ⟨.inr rfl, rows, rfl, h⟩

/-- **Every opening succeeds**, and finds all rows and version 1. -/
theorem openAt_of_keeps (path : String) (h : disk.Keeps l) :
    ∃ rows, Store.openAt (.file path) disk = .ok (storeOf path rows) ∧ Records rows l := by
  match disk, h with
  | .empty, h => exact ⟨.empty, rfl, h ▸ records_empty⟩
  | .database ⟨0, _⟩, ⟨_, rows, rfl, hrows⟩ => exact ⟨rows, rfl, hrows⟩
  | .database ⟨1, _⟩, ⟨_, rows, rfl, hrows⟩ => exact ⟨rows, rfl, hrows⟩

/-! ## Answers and overflows -/

/-- There is a right answer as long as 64 bits are enough. Where they are not, the program stops. -/
def Answered {α : Type} (within : Prop) (right : α → Prop) : Except Fault α → Prop
  | .ok answer => within ∧ right answer
  | .error fault => ¬within ∧ fault = .overflow

namespace Answered

variable {α β : Type} {within later : Prop} {right : α → Prop} {right' : β → Prop} {result : Except Fault α}
  {next : α → Except Fault β}

theorem ok (h : Answered within right result) (hw : within) : ∃ answer, result = .ok answer ∧ right answer := by
  cases result with
  | ok answer => exact ⟨answer, rfl, h.2⟩
  | error fault => exact absurd hw h.1

theorem overflow (h : Answered within right result) (hw : ¬within) : result = .error .overflow := by
  cases result with
  | ok answer => exact absurd h.1 hw
  | error fault => rw [h.2]

/-- What comes next has an answer, or stops the program in its turn. -/
theorem bind (h : Answered within right result) (hnext : ∀ answer, right answer → Answered later right' (next answer)) :
    Answered (within ∧ later) right' (result >>= next) := by
  cases result with
  | error fault => exact ⟨fun both => h.1 both.1, h.2⟩
  | ok answer =>
      have hrest := hnext answer h.2
      show Answered _ _ (next answer)
      cases hresult : next answer with
      | error fault =>
          rw [hresult] at hrest
          exact ⟨fun both => hrest.1 both.2, hrest.2⟩
      | ok last =>
          rw [hresult] at hrest
          exact ⟨⟨h.1, hrest.1⟩, hrest.2⟩

/-- What comes next has an answer in any case. -/
theorem bind_ok (h : Answered within right result)
    (hnext : ∀ answer, right answer → ∃ last, next answer = .ok last ∧ right' last) :
    Answered within right' (result >>= next) := by
  have hboth : Answered (within ∧ True) right' (result >>= next) := by
    refine h.bind fun answer hanswer => ?_
    obtain ⟨last, hlast, hright⟩ := hnext answer hanswer
    rw [hlast]
    exact ⟨trivial, hright⟩
  rwa [and_true] at hboth

end Answered

/-! ## Runs -/

/-- An open store of a file with its version and the rows of a ledger. -/
def Store.Holds (path : String) (l : Ledger) (s : Store) : Prop :=
  ∃ rows, s = storeOf path rows ∧ Records rows l

variable {path : String} {s : Store}

/-- **One use of a store** is answered as by the ledger, and leaves the rows that the ledger has then. -/
theorem run_use (u : Use) (h : s.Holds path l) :
    Answered (l.Within u) (fun x => x.1 = l.reply u ∧ x.2.Holds path (l.after u)) (s.use u) := by
  obtain ⟨rows, rfl, hlookup, hsize⟩ := h
  cases u with
  | upsert user row => exact ⟨trivial, rfl, rows.set user row, rfl, records_set ⟨hlookup, hsize⟩ user row⟩
  | get user => exact ⟨trivial, congrArg Reply.row (hlookup user), rows, rfl, hlookup, hsize⟩
  | count => exact ⟨trivial, congrArg Reply.number hsize, rows, rfl, hlookup, hsize⟩
  | getFresh now user =>
      have htable : (storeOf path rows).database.rows = .ok rows := rfl
      have hrow : rows.get? user = l.lookup user := hlookup user
      simp only [Store.use, Ledger.Within, Ledger.reply, Ledger.after]
      cases hfound : l.lookup user with
      | none =>
          rw [Database.getFresh_of_none htable (hrow.trans hfound)]
          exact ⟨fun row hnone => absurd hnone (Option.not_mem_none row), rfl, rows, rfl, hlookup, hsize⟩
      | some row =>
          rw [Database.getFresh_of_get? htable (hrow.trans hfound)]
          by_cases hfits : Fits (row.age now)
          · rw [if_pos hfits, Option.filter_some]
            exact ⟨fun _ hsome => Option.some.inj hsome ▸ hfits, rfl, rows, rfl, hlookup, hsize⟩
          · rw [if_neg hfits]
            exact ⟨fun hall => hfits (hall row rfl), rfl⟩

/-- All uses of a store. -/
theorem run_uses (us : List Use) (h : s.Holds path l) :
    Answered (Ledger.AllWithin us l) (fun x => x.1 = l.replies us ∧ x.2.Holds path (us.foldl Ledger.after l))
      (s.useAll us) := by
  induction us generalizing s l with
  | nil => exact ⟨trivial, rfl, h⟩
  | cons u us ih =>
      refine (run_use u h).bind fun first hfirst => (ih hfirst.2).bind_ok fun rest hrest => ?_
      exact ⟨(first.1 :: rest.1, rest.2), rfl, congrArg₂ List.cons hfirst.1 hrest.1, hrest.2⟩

/-- **One visit to a file** is answered as by the ledger, whether the version was lost before or not. -/
theorem run_visit (path : String) (v : Visit) (h : disk.Keeps l) :
    Answered (Ledger.AllWithin v.uses l)
      (fun x => x.1 = ⟨1, l.replies v.uses⟩ ∧ x.2.Keeps (v.uses.foldl Ledger.after l)) (v.run path disk) := by
  have hfound : (if v.losesVersion then disk.loseVersion else disk).Keeps l := by
    split
    · exact keeps_loseVersion h
    · exact h
  obtain ⟨rows, hopen, hrows⟩ := openAt_of_keeps path hfound
  have hheld : (storeOf path rows).Holds path l := ⟨rows, rfl, hrows⟩
  unfold Visit.run
  rw [hopen]
  refine (run_uses v.uses hheld).bind_ok fun used ⟨hreplies, rows', hused, hrows'⟩ => ?_
  refine ⟨(⟨1, used.1⟩, used.2.close), rfl, congrArg (Account.mk 1) hreplies, ?_⟩
  rw [hused]
  exact keeps_close path hrows'

/-- All visits to a file. -/
theorem run_visits (path : String) (vs : List Visit) (h : disk.Keeps l) :
    Answered (Ledger.AllWithin (vs.flatMap Visit.uses) l)
      (fun x => x.1 = l.accounts vs ∧ x.2.Keeps (l.afterVisits vs)) (runVisits path vs disk) := by
  induction vs generalizing disk l with
  | nil => exact ⟨trivial, rfl, h⟩
  | cons v vs ih =>
      rw [List.flatMap_cons, Ledger.allWithin_append, Ledger.afterVisits, List.flatMap_cons, List.foldl_append]
      refine (run_visit path v h).bind fun first hfirst => (ih hfirst.2).bind_ok fun rest hrest => ?_
      exact ⟨(first.1 :: rest.1, rest.2), rfl, congrArg₂ List.cons hfirst.1 hrest.1, hrest.2⟩

/-! ## Where 64 bits are enough -/

/-- A use whose clock, or whose stamp, is not from before 1970. -/
def Use.SinceEpoch : Use → Prop
  | .upsert _ row => 0 ≤ row.updatedAt
  | .getFresh now _ => 0 ≤ now
  | _ => True

/-- All rows of a ledger are from 1970 or later. -/
def Ledger.SinceEpoch (l : Ledger) : Prop :=
  ∀ user row, l.lookup user = some row → 0 ≤ row.updatedAt

theorem Ledger.sinceEpoch_after {u : Use} (hl : l.SinceEpoch) (hu : u.SinceEpoch) : (l.after u).SinceEpoch := by
  cases u with
  | upsert user row =>
      intro other found hfound
      by_cases heq : other = user
      · rw [heq, Ledger.after, Finmap.lookup_insert] at hfound
        cases hfound
        exact hu
      · rw [Ledger.after, Finmap.lookup_insert_of_ne l heq] at hfound
        exact hl other found hfound
  | _ => exact hl

/-- **Where all clocks and stamps are from 1970 or later**, 64 bits are enough. -/
theorem Ledger.within_sinceEpoch {us : List Use} (hl : l.SinceEpoch) (hus : ∀ u ∈ us, u.SinceEpoch) :
    Ledger.AllWithin us l := by
  induction us generalizing l with
  | nil => trivial
  | cons u us ih =>
      obtain ⟨hu, hus⟩ := List.forall_mem_cons.mp hus
      refine ⟨?_, ih (sinceEpoch_after hl hu) hus⟩
      cases u with
      | getFresh now user => exact fun row hrow => fits_of_nonneg hu (hl user row hrow)
      | _ => trivial

/-! ## The answers of a file -/

/-- **The oldest row stops the program**: its age does not fit into 64 bits, and who asks for it gets no answer. -/
theorem oldest_row_stops :
    ¬ ∀ path vs, (runVisits path vs .empty).map (·.1) = .ok (Ledger.accounts vs ∅) := by
  intro h
  have hoverflow := h "users.db"
    [⟨false, [.upsert "U1" ⟨"alice", Int64.minValue⟩]⟩, ⟨false, [.getFresh 1767225600 "U1"]⟩]
  exact absurd hoverflow (by decide)

/-- **The answers of a file are those of a finite map**, over all visits to it, whether its version was lost between
    them or not: every opening succeeds and finds version 1, no use is refused, a row is left out of the answers exactly
    if it has expired and a fresh one is asked for, and the rows that are left are those of the map. The one exception
    is an age that does not fit into 64 bits: there the visits end, and nowhere else. Where clocks and stamps are from
    1970 or later no age is like that. -/
theorem visits_refine (path : String) (vs : List Visit) :
    (Ledger.AllWithin (vs.flatMap Visit.uses) ∅ →
        ∃ disk, runVisits path vs .empty = .ok (Ledger.accounts vs ∅, disk) ∧ disk.Keeps (Ledger.afterVisits vs ∅)) ∧
      (¬Ledger.AllWithin (vs.flatMap Visit.uses) ∅ → runVisits path vs .empty = .error .overflow) ∧
      ((∀ u ∈ vs.flatMap Visit.uses, u.SinceEpoch) → Ledger.AllWithin (vs.flatMap Visit.uses) ∅) := by
  have hempty : Disk.empty.Keeps ∅ := rfl
  have hrun := run_visits path vs hempty
  refine ⟨fun hwithin => ?_, hrun.overflow, Ledger.within_sinceEpoch ?_⟩
  · obtain ⟨⟨_, disk⟩, hok, rfl, hkeeps⟩ := hrun.ok hwithin
    exact ⟨disk, hok, hkeeps⟩
  · intro user row hfound
    exact absurd hfound (by simp)

/-- A row that is written, a version that is lost, and the row after a week and one second later. -/
def weekBetween : List Visit :=
  [⟨false, [.upsert "U1" ⟨"alice", 1000⟩]⟩,
    ⟨true, [.getFresh 605800 "U1", .getFresh 605801 "U1", .get "U1", .count]⟩]

/-- A row from the beginning of time, which is still there when the file is opened again, and is then asked for. -/
def oldestAsked : List Visit :=
  [⟨false, [.upsert "U1" ⟨"alice", Int64.minValue⟩]⟩, ⟨true, [.get "U1", .getFresh 0 "U1"]⟩]

theorem visits_refine_over_week : (∀ u ∈ weekBetween.flatMap Visit.uses, u.SinceEpoch) ∧
    (∃ disk, runVisits "users.db" weekBetween .empty =
      .ok ([⟨1, [.done]⟩,
        ⟨1, [.row (some ⟨"alice", 1000⟩), .row none, .row (some ⟨"alice", 1000⟩), .number 1]⟩], disk)) ∧
    ¬Ledger.AllWithin (oldestAsked.flatMap Visit.uses) ∅ ∧
    runVisits "users.db" oldestAsked .empty = .error .overflow := by
  have hsince : ∀ u ∈ weekBetween.flatMap Visit.uses, u.SinceEpoch := by
    simp [weekBetween, Use.SinceEpoch, Int64.le_iff_toInt_le]
  obtain ⟨hexact, _, hwithin⟩ := visits_refine "users.db" weekBetween
  obtain ⟨disk, hrun, _⟩ := hexact (hwithin hsince)
  have hbeyond : ¬Ledger.AllWithin (oldestAsked.flatMap Visit.uses) ∅ := by
    rintro ⟨-, -, hfits, -⟩
    exact absurd (hfits ⟨"alice", Int64.minValue⟩ (Finmap.lookup_insert _)) (by decide)
  exact ⟨hsince, ⟨disk, hrun⟩, hbeyond, (visits_refine "users.db" oldestAsked).2.1 hbeyond⟩

end TeamChat.Directory
