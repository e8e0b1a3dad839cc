import Mathlib.Data.List.Nodup
import TeamChat.Json.Codec

/-!
# `Json.Records`: records read back

An object sorts its members, so the fields of a record are read in another order than they were written in. That
does no harm if the fields have different names and none touches what another one reads (`Orderly`): the
order of such fields does not matter, keys that are no field's are passed over, and a record comes back from its
object if every field's value does (`Orderly.restores`).

## Contents
- `keys`, `collect`, `collect_perm`, `sorted_collect`: the members of an object.
- `Codec.Restores`: values that come back, for the codecs of single values.
- `RecordField.Independent`, `Orderly`: fields that can be read in any order.
- `readAll_of_perm`, `readMembers_of_mem`, `Orderly.restores`: what comes back.
- `Orderly.depth_lt`: how deep the values of fields lie.
-/

namespace TeamChat.Json

variable {key : String} {v : Json} {ms : List (String × Json)}

/-! ## The members of an object -/

/-- The keys of members. -/
def keys (ms : List (String × Json)) : List String :=
  ms.map (·.1)

/-- Members with a new key have one member more. -/
theorem put_perm (h : key ∉ keys ms) : (put key v ms).Perm ((key, v) :: ms) := by
  fun_induction put key v ms with
  | case1 => exact .refl _
  | case2 => exact .refl _
  | case3 w r => exact absurd List.mem_cons_self h
  | case4 k w r hlt hne ih =>
      have later : key ∉ keys r := fun hr => h (List.mem_cons_of_mem _ hr)
      exact ((ih later).cons (k, w)).trans (.swap ..)

theorem mem_put {m : String × Json} (h : m ∈ put key v ms) : m = (key, v) ∨ m ∈ ms := by
  fun_induction put key v ms with
  | case1 => exact .inl (List.mem_singleton.mp h)
  | case2 k w r hlt => exact List.mem_cons.mp h
  | case3 w r hlt =>
      rcases List.mem_cons.mp h with rfl | h
      · exact .inl rfl
      · exact .inr (List.mem_cons_of_mem _ h)
  | case4 k w r hlt hne ih =>
      rcases List.mem_cons.mp h with rfl | h
      · exact .inr List.mem_cons_self
      · rcases ih h with rfl | h
        · exact .inl rfl
        · exact .inr (List.mem_cons_of_mem _ h)

theorem lt_of_not_lt {a b : String} (h : ¬ a < b) (hne : a ≠ b) : b < a := by
  rcases Decidable.em (b < a) with hlt | hle
  · exact hlt
  · exact absurd (String.le_antisymm (String.not_lt.mp hle) (String.not_lt.mp h)) hne

/-- Members that are sorted by key stay so. -/
theorem sorted_put (h : (keys ms).Pairwise (· < ·)) : (keys (put key v ms)).Pairwise (· < ·) := by
  fun_induction put key v ms with
  | case1 => exact List.pairwise_singleton _ _
  | case2 k w r hlt =>
      refine List.pairwise_cons.mpr ⟨?_, h⟩
      intro k' hk'
      rcases List.mem_cons.mp hk' with rfl | hk'
      · exact hlt
      · exact String.lt_trans hlt ((List.pairwise_cons.mp h).1 k' hk')
  | case3 w r hlt => exact h
  | case4 k w r hlt hne ih =>
      obtain ⟨first, rest⟩ := List.pairwise_cons.mp h
      refine List.pairwise_cons.mpr ⟨?_, ih rest⟩
      intro k' hk'
      obtain ⟨m, hm, rfl⟩ := List.mem_map.mp hk'
      rcases mem_put hm with rfl | hm
      · exact lt_of_not_lt hlt hne
      · exact first m.1 (List.mem_map_of_mem hm)

/-- A key behind all others is put last. -/
theorem put_of_lt (h : ∀ k ∈ keys ms, k < key) : put key v ms = ms ++ [(key, v)] := by
  fun_induction put key v ms with
  | case1 => rfl
  | case2 k w r hlt => exact absurd (String.lt_trans hlt (h k List.mem_cons_self)) (String.lt_irrefl key)
  | case3 w r hlt => exact absurd (h key List.mem_cons_self) (String.lt_irrefl key)
  | case4 k w r hlt hne ih =>
      rw [ih fun k' hk' => h k' (List.mem_cons_of_mem _ hk')]
      rfl

/-- Members put one after the other among those before; an object has those of no others. -/
def collect (members : List (String × Json)) (before : List (String × Json)) : List (String × Json) :=
  members.foldl (fun ms m => put m.1 m.2 ms) before

/-- **Members of different keys** are all in their object, which only sorts them. -/
theorem collect_perm {members before : List (String × Json)} (h : (keys (before ++ members)).Nodup) :
    (collect members before).Perm (before ++ members) := by
  induction members generalizing before with
  | nil => simp [collect]
  | cons m members ih =>
      have keys_perm : (keys (before ++ m :: members)).Perm (m.1 :: keys (before ++ members)) :=
        List.perm_middle.map _
      obtain ⟨fresh, rest⟩ := List.nodup_cons.mp (keys_perm.nodup_iff.mp h)
      have fresh' : m.1 ∉ keys before := fun hb => fresh (by simp [keys] at hb ⊢; exact Or.inl hb)
      -- the object so far takes the place of the members so far
      have step : (put m.1 m.2 before ++ members).Perm (before ++ m :: members) :=
        ((put_perm fresh').append_right members).trans List.perm_middle.symm
      have nodup : (keys (put m.1 m.2 before ++ members)).Nodup := (step.map _).nodup_iff.mpr h
      exact (ih nodup).trans step

theorem mem_collect {members before : List (String × Json)} {m : String × Json} (h : m ∈ collect members before) :
    m ∈ before ∨ m ∈ members := by
  induction members generalizing before with
  | nil => exact .inl h
  | cons m' members ih =>
      rcases ih h with h | h
      · rcases mem_put h with rfl | h
        · exact .inr List.mem_cons_self
        · exact .inl h
      · exact .inr (List.mem_cons_of_mem _ h)

theorem sorted_collect {members before : List (String × Json)} (h : (keys before).Pairwise (· < ·)) :
    (keys (collect members before)).Pairwise (· < ·) := by
  induction members generalizing before with
  | nil => exact h
  | cons m members ih => exact ih (sorted_put h)

/-- The value of a key that stands among members once. -/
theorem find?_of_mem {k : String} {w : Json} (h : (keys ms).Nodup) (hm : (k, w) ∈ ms) : find? k ms = some w := by
  induction ms with
  | nil => cases hm
  | cons m ms ih =>
      obtain ⟨fresh, rest⟩ := List.nodup_cons.mp h
      rcases List.mem_cons.mp hm with rfl | hm
      · exact if_pos rfl
      · have other : m.1 ≠ k := by
          rintro rfl
          exact fresh (List.mem_map.mpr ⟨_, hm, rfl⟩)
        exact (if_neg other).trans (ih rest hm)

/-- A name that nothing else has leads to what has it. -/
theorem find?_name {β : Type} {name : β → String} {l : List β} (h : (l.map name).Nodup) {b : β} (hb : b ∈ l) :
    (l.find? fun x => name x = name b) = some b := by
  induction l with
  | nil => cases hb
  | cons a l ih =>
      obtain ⟨fresh, rest⟩ := List.nodup_cons.mp h
      rcases List.mem_cons.mp hb with rfl | hb
      · exact List.find?_cons_of_pos (decide_eq_true rfl)
      · have other : name a ≠ name b := fun eq => fresh (eq ▸ List.mem_map_of_mem hb)
        rw [List.find?_cons_of_neg (by simpa using other)]
        exact ih rest hb

/-! ## Values that come back -/

namespace Codec

variable {α : Type} {c : Codec α} {x : α}

/-- A value comes back from what is written for it. -/
def Restores (c : Codec α) (x : α) : Prop :=
  c.decode (c.encode x) = .ok x

@[simp] theorem restores_text (s : String) : text.Restores s := rfl

@[simp] theorem restores_flag (b : Bool) : flag.Restores b := rfl

theorem restores_unsigned {name : String} {n : Nat} (h : n < UInt64.size) : (unsigned name).Restores n := by
  have room : 0 ≤ (n : Int) ∧ (n : Int) < UInt64.size := ⟨Int.natCast_nonneg n, Int.ofNat_lt.mpr h⟩
  simp only [Restores, unsigned, Json.int]
  rw [if_pos room, Int.toNat_natCast]

theorem restores_signed {z : Int} (h : Int64.minValue.toInt ≤ z ∧ z ≤ Int64.maxValue.toInt) : signed.Restores z :=
  if_pos h

theorem restores_list {xs : List α} (h : ∀ x ∈ xs, c.Restores x) : (list c).Restores xs := by
  show (xs.map c.encode).mapM c.decode = .ok xs
  induction xs with
  | nil => rfl
  | cons x xs ih =>
      have head : c.decode (c.encode x) = .ok x := h x List.mem_cons_self
      have tail := ih fun y hy => h y (List.mem_cons_of_mem _ hy)
      rw [List.map_cons, List.mapM_cons, head, tail]
      rfl

@[simp] theorem restores_none : (optional c).Restores none := rfl

theorem restores_some (h : c.Restores x) (hn : c.encode x ≠ .null) : (optional c).Restores (some x) := by
  simp only [Restores, optional]
  rw [h]
  rfl

/-- A name comes back if no other value has it. -/
theorem restores_choice [DecidableEq α] {names : List (String × α)} (hn : (names.map (·.1)).Nodup)
    (hx : x ∈ names.map (·.2)) : (choice names).Restores x := by
  obtain ⟨m, hm, hmx⟩ := List.mem_map.mp hx
  cases hf : names.find? fun n => n.2 = x with
  | none => exact absurd (List.find?_eq_none.mp hf m hm) (by simp [hmx])
  | some n =>
      have hn2 : n.2 = x := by simpa using List.find?_some hf
      have same := find?_name hn (List.mem_of_find?_eq_some hf)
      simp only [Restores, choice, tagged, hf, Option.map_some, Option.getD_some, same, hn2]

end Codec

/-! ## Fields in any order -/

section Fields

variable {ρ : Type} {fields : List (RecordField ρ)} {r s t u : ρ}

/-- Two fields that can be read in either order. -/
def RecordField.Independent (f g : RecordField ρ) : Prop :=
  ∀ v w s u, (∃ t, f.read v s = .ok t ∧ g.read w t = .ok u) ↔ ∃ t, g.read w s = .ok t ∧ f.read v t = .ok u

theorem RecordField.Independent.symm {f g : RecordField ρ} (h : f.Independent g) : g.Independent f :=
  fun v w s u => (h w v s u).symm

theorem independent_field {α β : Type} {n n' : String} {c : Codec α} {c' : Codec β} {get : ρ → α} {get' : ρ → β}
    {set : ρ → α → ρ} {set' : ρ → β → ρ} (h : ∀ s x y, set' (set s x) y = set (set' s y) x) :
    (field n c get set).Independent (field n' c' get' set') := by
  intro v w s u
  simp only [field]
  cases c.decode v with
  | error e => cases c'.decode w <;> simp [Except.map]
  | ok x =>
      cases c'.decode w with
      | error e => simp [Except.map]
      | ok y => simp [Except.map, h]

/-- Fields of different names that do not touch each other. -/
structure Orderly (fields : List (RecordField ρ)) : Prop where
  names : (fields.map (·.name)).Nodup
  independent : fields.Pairwise RecordField.Independent

/-- Reads fields in the order given, each from a value. -/
def readAll : List (RecordField ρ × Json) → ρ → Except Mismatch ρ
  | [], r => .ok r
  | (f, v) :: rest, r =>
    match f.read v r with
    | .error e => .error e
    | .ok r => readAll rest r

/-- The fields with what they write of a record. -/
def written (fields : List (RecordField ρ)) (r : ρ) : List (RecordField ρ × Json) :=
  fields.map fun f => (f, f.write r)

@[simp] theorem readAll_nil : readAll [] s = .ok s := by
  rw [readAll]

theorem readAll_cons_iff {f : RecordField ρ} {v : Json} {rest : List (RecordField ρ × Json)} :
    readAll ((f, v) :: rest) s = .ok u ↔ ∃ t, f.read v s = .ok t ∧ readAll rest t = .ok u := by
  simp only [readAll]
  cases hr : f.read v s with
  | error e => simp
  | ok t => simp

@[simp] theorem write_field {α : Type} {n : String} {c : Codec α} {get : ρ → α} {set : ρ → α → ρ} :
    (field n c get set).write r = c.encode (get r) := by
  rw [field]

/-- A field that a codec makes is put into the record if its value comes back. -/
theorem readAll_field {α : Type} {n : String} {c : Codec α} {get : ρ → α} {set : ρ → α → ρ}
    {rest : List (RecordField ρ × Json)} (h : c.Restores (get r)) :
    readAll ((field n c get set, c.encode (get r)) :: rest) s = readAll rest (set s (get r)) := by
  have value : (field n c get set).read (c.encode (get r)) s = .ok (set s (get r)) :=
    congrArg (Except.map (set s)) h
  simp only [readAll, value]

/-- **Fields that do not touch each other** can be read in any order. -/
theorem readAll_of_perm {l l' : List (RecordField ρ × Json)} (hp : l.Perm l')
    (hi : l.Pairwise fun a b => a.1.Independent b.1) (h : readAll l s = .ok u) :
    readAll l' s = .ok u := by
  induction hp generalizing s with
  | nil => exact h
  | cons x hp ih =>
      obtain ⟨t, first, rest⟩ := readAll_cons_iff.mp h
      exact readAll_cons_iff.mpr ⟨t, first, ih (List.pairwise_cons.mp hi).2 rest⟩
  | swap x y l =>
      -- the first two change places, which is what their independence allows
      obtain ⟨t, first, h⟩ := readAll_cons_iff.mp h
      obtain ⟨t', second, rest⟩ := readAll_cons_iff.mp h
      have free := (List.pairwise_cons.mp hi).1 x List.mem_cons_self
      obtain ⟨w, second', first'⟩ := (free _ _ _ _).mp ⟨t, first, second⟩
      exact readAll_cons_iff.mpr ⟨w, second', readAll_cons_iff.mpr ⟨t', first', rest⟩⟩
  | trans hp _ ih ih' =>
      have hi' := (hp.pairwise_iff RecordField.Independent.symm).mp hi
      exact ih' hi' (ih hi h)

/-- The fields that members have values for, with those values. -/
def given (fields : List (RecordField ρ)) (ms : List (String × Json)) : List (RecordField ρ × Json) :=
  ms.filterMap fun m => (fields.find? fun f => f.name = m.1).map (·, m.2)

theorem readMembers_eq (fields : List (RecordField ρ)) (ms : List (String × Json)) (s : ρ) :
    Record.readMembers fields ms s = readAll (given fields ms) s := by
  induction ms generalizing s with
  | nil => rfl
  | cons m ms ih =>
      simp only [Record.readMembers, given, List.filterMap_cons]
      cases hf : fields.find? fun f => f.name = m.1 with
      | none => exact ih s
      | some f =>
          simp only [Option.map_some, readAll]
          cases f.read m.2 s with
          | error e => rfl
          | ok t => exact ih t

/-- The members that a record has written are all that its fields are given. -/
theorem given_perm (hn : (fields.map (·.name)).Nodup) (hk : (keys ms).Nodup)
    (hm : ∀ f ∈ fields, (f.name, f.write r) ∈ ms) : (given fields ms).Perm (written fields r) := by
  have given_iff (f : RecordField ρ) (v : Json) :
      (f, v) ∈ given fields ms ↔ f ∈ fields ∧ (f.name, v) ∈ ms := by
    unfold given
    rw [List.mem_filterMap]
    constructor
    · rintro ⟨⟨k, w⟩, hmem, hg⟩
      obtain ⟨g, hfind, eq⟩ := Option.map_eq_some_iff.mp hg
      cases eq
      have name : f.name = k := by simpa using List.find?_some hfind
      exact ⟨List.mem_of_find?_eq_some hfind, name ▸ hmem⟩
    · rintro ⟨hf, hmem⟩
      exact ⟨(f.name, v), hmem, by rw [find?_name hn hf]; rfl⟩
  have nodup : (given fields ms).Nodup := by
    refine (List.Nodup.of_map _ hk).filterMap ?_
    rintro ⟨k, w⟩ ⟨k', w'⟩ ⟨f, v⟩ h h'
    obtain ⟨g, hfind, eq⟩ := Option.map_eq_some_iff.mp h
    obtain ⟨g', hfind', eq'⟩ := Option.map_eq_some_iff.mp h'
    cases eq
    cases eq'
    have name : f.name = k := by simpa using List.find?_some hfind
    have name' : f.name = k' := by simpa using List.find?_some hfind'
    rw [← name, ← name']
  have nodup' : (written fields r).Nodup := (List.Nodup.of_map _ hn).map fun f g h => (Prod.mk.inj h).1
  -- neither has anything twice, so it is enough that they have the same in them
  refine (List.perm_ext_iff_of_nodup nodup nodup').mpr ?_
  rintro ⟨f, v⟩
  rw [given_iff, written, List.mem_map]
  constructor
  · rintro ⟨hf, hmem⟩
    have same := (find?_of_mem hk hmem).symm.trans (find?_of_mem hk (hm f hf))
    exact ⟨f, hf, by rw [Option.some.inj same]⟩
  · rintro ⟨g, hg, eq⟩
    cases eq
    exact ⟨hg, hm f hg⟩

/-- **Members among which are those that a record has written** are read as these alone. -/
theorem readMembers_of_mem (ho : Orderly fields) (hk : (keys ms).Nodup)
    (hm : ∀ f ∈ fields, (f.name, f.write r) ∈ ms) (h : readAll (written fields r) s = .ok u) :
    Record.readMembers fields ms s = .ok u := by
  rw [readMembers_eq]
  have free : (written fields r).Pairwise fun a b => a.1.Independent b.1 := by
    rw [written, List.pairwise_map]
    exact ho.independent
  exact readAll_of_perm (given_perm ho.names hk hm).symm free h

/-- What a record writes for its fields, by name. -/
theorem mem_members {t : Record ρ} {f : RecordField ρ} (hf : f ∈ t.fields) : (f.name, f.write r) ∈ t.members r :=
  List.mem_map_of_mem hf

theorem Orderly.nodup_members {t : Record ρ} (ho : Orderly t.fields) : (keys (t.members r)).Nodup := by
  have names : keys (t.members r) = t.fields.map (·.name) := by
    simp [keys, Record.members]
  rw [names]
  exact ho.names

/-- The object of a record has all that the record has written. -/
theorem Orderly.collect_members {t : Record ρ} (ho : Orderly t.fields) :
    (collect (t.members r) []).Perm (t.members r) :=
  collect_perm ho.nodup_members

/-- **A record comes back** if the values of its fields do, one after the other. -/
theorem Orderly.restores {t : Record ρ} (ho : Orderly t.fields)
    (h : readAll (written t.fields r) t.blank = .ok r) : t.codec.Restores r := by
  have perm : (collect (t.members r) []).Perm (t.members r) := ho.collect_members
  have nodup : (keys (collect (t.members r) [])).Nodup := (perm.map _).nodup_iff.mpr ho.nodup_members
  have own (f : RecordField ρ) (hf : f ∈ t.fields) : (f.name, f.write r) ∈ collect (t.members r) [] :=
    perm.mem_iff.mpr (mem_members hf)
  have read := readMembers_of_mem ho nodup own h
  have complete : t.absent? (collect (t.members r) []) = none := by
    unfold Record.absent?
    split
    · rw [Option.map_eq_none_iff, List.find?_eq_none]
      intro f hf
      simp [find?_of_mem nodup (own f hf)]
    · rfl
  show t.decode (.obj (collect (t.members r) [])) = .ok r
  simp only [Record.decode, read, complete]

end Fields

/-! ## Nesting -/

theorem depth_lt_arr {items : List Json} (h : v ∈ items) : v.depth < (Json.arr items).depth := by
  refine Nat.lt_succ_of_le ?_
  induction items with
  | nil => cases h
  | cons w items ih =>
      rcases List.mem_cons.mp h with rfl | h
      · exact Nat.le_max_left _ _
      · exact Nat.le_trans (ih h) (Nat.le_max_right _ _)

theorem depth_lt_obj (h : (key, v) ∈ ms) : v.depth < (Json.obj ms).depth := by
  refine Nat.lt_succ_of_le ?_
  induction ms with
  | nil => cases h
  | cons m ms ih =>
      rcases List.mem_cons.mp h with rfl | h
      · exact Nat.le_max_left _ _
      · exact Nat.le_trans (ih h) (Nat.le_max_right _ _)

/-- What a record writes for a field lies one level deeper than the record. -/
theorem Orderly.depth_lt {ρ : Type} {t : Record ρ} {r : ρ} (ho : Orderly t.fields) (h : (key, v) ∈ t.members r) :
    v.depth < (t.codec.encode r).depth :=
  depth_lt_obj (ho.collect_members.mem_iff.mpr h)

end TeamChat.Json
