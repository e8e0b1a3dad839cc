import TeamChat.Proofs.Emoji.Codes

/-!
# `Emoji.find?`: what is found in the table

The search halves a part of the table that is in ascending order, and keeps in it whatever may have the code that is
looked for. So it finds the entry of a code wherever there is one, and nothing else (`find?_eq_some_iff`). A scan that
looks at one entry after the other finds the same, since in such a table no code stands twice (`search_eq_scan?`). The
codes of the table are codes of the pattern, and their emoji hold neither a colon nor a character of a name: in a text
an emoji stands between codes, never in one.

## Contents
- `Emoji.table_sorted`, `written_of_mem`, `stops_of_mem`, `head_of_mem`: the table.
- `Emoji.search_eq_some_iff`, `find?_eq_some_iff`: what is found are the entries.
- `Emoji.scan?_eq_some_iff`, `search_eq_scan?`, `find?_eq_scan?`: search and scan.
- `Emoji.shown_of_mem`, `shown_cases`: what is shown for a code.
-/

namespace TeamChat.Emoji

variable {t : Array (String × String)} {code emoji : String} {name : List Char} {lo hi i : Nat}

/-! ## The table -/

/-- One entry comes before another one. -/
def Precedes (a b : String × String) : Prop :=
  a.1 < b.1

instance : Trans Precedes Precedes Precedes :=
  ⟨fun hab hbc => String.lt_trans hab hbc⟩

instance (a b : String × String) : Decidable (Precedes a b) :=
  inferInstanceAs (Decidable (a.1 < b.1))

/-- The table is in ascending order of its codes. -/
theorem table_sorted : table.toList.Pairwise Precedes := by
  have hchain : table.toList.IsChain Precedes := by decide +kernel
  exact List.isChain_iff_pairwise.mp hchain

/-- Every code of the table is a name between two colons. -/
theorem written_of_mem (h : (code, emoji) ∈ table) :
    ∃ name, code.toList = written name ∧ name ≠ [] ∧ ∀ c ∈ name, isCodeChar c = true := by
  have hall : table.toList.all (fun e =>
      let name := e.1.toList.tail.dropLast
      e.1.toList == written name && (name != [] && name.all isCodeChar)) = true := by decide +kernel
  have hentry := List.all_eq_true.mp hall (code, emoji) (Array.mem_toList_iff.mpr h)
  simp only [Bool.and_eq_true, beq_iff_eq, bne_iff_ne, List.all_eq_true] at hentry
  exact ⟨_, hentry⟩

/-- An emoji is not empty, and no code reaches over any of its characters. -/
theorem stops_of_mem (h : (code, emoji) ∈ table) : emoji.toList ≠ [] ∧ ∀ c ∈ emoji.toList, stops c = true := by
  have hall : table.toList.all (fun e => e.2.toList != [] && e.2.toList.all stops) = true := by decide +kernel
  have hentry := List.all_eq_true.mp hall (code, emoji) (Array.mem_toList_iff.mpr h)
  simp only [Bool.and_eq_true, bne_iff_ne, List.all_eq_true] at hentry
  exact hentry

/-- An emoji begins with a character that no code reaches over. -/
theorem head_of_mem (h : (code, emoji) ∈ table) : ∃ x r, emoji.toList = x :: r ∧ stops x = true := by
  obtain ⟨hne, hstops⟩ := stops_of_mem h
  obtain ⟨x, r, hx⟩ := List.exists_cons_of_ne_nil hne
  exact ⟨x, r, hx, hstops x (by rw [hx]; exact List.mem_cons_self)⟩

/-! ## The search -/

/-- What is found is an entry. -/
theorem mem_of_search (h : search t code lo hi = some emoji) : (code, emoji) ∈ t := by
  fun_induction search t code lo hi with
  | case1 => exact absurd h (by simp)
  | case2 lo hi hlt mid key hmid =>
      cases h
      exact Array.mem_of_getElem? hmid
  | case3 lo hi hlt mid key e hmid hne hkey ih => exact ih h
  | case4 lo hi hlt mid key e hmid hne hkey ih => exact ih h
  | case5 => exact absurd h (by simp)

/-- Of two places in a sorted table the one in front holds the smaller code. -/
theorem code_lt_code (hs : t.toList.Pairwise Precedes) {j : Nat} {a b : String × String} (hij : i < j)
    (ha : t[i]? = some a) (hb : t[j]? = some b) : a.1 < b.1 := by
  obtain ⟨hi, rfl⟩ := Array.getElem?_eq_some_iff.mp ha
  obtain ⟨hj, rfl⟩ := Array.getElem?_eq_some_iff.mp hb
  exact List.pairwise_iff_getElem.mp hs i j (by simpa using hi) (by simpa using hj) hij

/-- **In a sorted table every entry is found**: the half that is kept holds it. -/
theorem search_of_getElem? (hs : t.toList.Pairwise Precedes) (hget : t[i]? = some (code, emoji)) (hle : lo ≤ i)
    (hlt : i < hi) (hsize : hi ≤ t.size) : search t code lo hi = some emoji := by
  fun_induction search t code lo hi with
  | case1 lo hi hbounds mid hmid =>
      have hout := Array.getElem?_eq_none_iff.mp hmid
      omega
  | case2 lo hi hbounds mid e hmid =>
      -- one code stands at one place
      rcases Nat.lt_trichotomy i mid with him | rfl | hmi
      · exact absurd (code_lt_code hs him hget hmid) (String.lt_irrefl code)
      · rw [hget] at hmid
        cases hmid
        rfl
      · exact absurd (code_lt_code hs hmi hmid hget) (String.lt_irrefl code)
  | case3 lo hi hbounds mid key e hmid hne hkey ih =>
      refine ih ?_ hlt hsize
      rcases Nat.lt_trichotomy i mid with him | rfl | hmi
      · exact absurd (String.lt_trans hkey (code_lt_code hs him hget hmid)) (String.lt_irrefl key)
      · rw [hget] at hmid
        cases hmid
        exact absurd rfl hne
      · exact hmi
  | case4 lo hi hbounds mid key e hmid hne hkey ih =>
      refine ih hle ?_ (by omega)
      rcases Nat.lt_trichotomy i mid with him | rfl | hmi
      · exact him
      · rw [hget] at hmid
        cases hmid
        exact absurd rfl hne
      · exact absurd (code_lt_code hs hmi hmid hget) hkey
  | case5 => omega

/-- What is found in a sorted table are its entries. -/
theorem search_eq_some_iff (hs : t.toList.Pairwise Precedes) :
    search t code 0 t.size = some emoji ↔ (code, emoji) ∈ t := by
  constructor
  · exact mem_of_search
  · intro h
    obtain ⟨i, hi⟩ := Array.mem_iff_getElem?.mp h
    have hlt := (Array.getElem?_eq_some_iff.mp hi).1
    exact search_of_getElem? hs hi (Nat.zero_le i) hlt (Nat.le_refl _)

/-- **What is found are the entries of the table.** -/
theorem find?_eq_some_iff : find? code = some emoji ↔ (code, emoji) ∈ table :=
  search_eq_some_iff table_sorted

/-! ## The plain scan -/

/-- A scan finds the first entry of a code. In a sorted list there is no other, so it finds each of the entries. -/
theorem scan?_eq_some_iff {l : List (String × String)} (hs : l.Pairwise Precedes) :
    scan? code l = some emoji ↔ (code, emoji) ∈ l := by
  induction l with
  | nil => simp [scan?]
  | cons e r ih =>
      obtain ⟨key, first⟩ := e
      obtain ⟨hahead, hr⟩ := List.pairwise_cons.mp hs
      rw [scan?, List.mem_cons, Prod.mk.injEq]
      by_cases hkey : key = code
      · have hbehind : (code, emoji) ∉ r := by
          intro h
          have hlt : key < code := hahead _ h
          exact String.lt_irrefl code (hkey ▸ hlt)
        rw [if_pos hkey, Option.some.injEq]
        exact ⟨fun h => .inl ⟨hkey.symm, h.symm⟩, fun h => (h.resolve_right hbehind).2.symm⟩
      · rw [if_neg hkey, ih hr]
        exact ⟨.inr, fun h => h.resolve_left fun heq => hkey heq.1.symm⟩

/-- **In a sorted table the search finds what a scan finds.** -/
theorem search_eq_scan? (hs : t.toList.Pairwise Precedes) (code : String) :
    search t code 0 t.size = scan? code t.toList := by
  apply Option.ext
  intro emoji
  rw [search_eq_some_iff hs, scan?_eq_some_iff hs, Array.mem_toList_iff]

/-- Without the order it may find less: here it halves the table at the wrong side of the code. -/
example : search #[(":b:", "B"), (":a:", "A")] ":b:" 0 2 = none ∧
    scan? ":b:" [(":b:", "B"), (":a:", "A")] = some "B" := by
  cbv

/-- **The search agrees with a plain scan of the table**, for every code: it gives the emoji of the first entry that
    has the code, and none if no entry has it. -/
theorem find?_eq_scan? (code : String) : find? code = scan? code table.toList :=
  search_eq_scan? table_sorted code

/-! ## What is shown -/

/-- For a code of the table its emoji is shown. -/
theorem shown_of_mem (h : (code, emoji) ∈ table) (hcode : code.toList = written name) : shown name = emoji.toList := by
  have hwritten : String.ofList (written name) = code := by rw [← hcode, String.ofList_toList]
  rw [shown, hwritten, find?_eq_some_iff.mpr h]

/-- For a code an emoji of the table is shown, or else the code as it is written. -/
theorem shown_cases (name : List Char) :
    (∃ emoji, (String.ofList (written name), emoji) ∈ table ∧ shown name = emoji.toList) ∨
      (∀ emoji, (String.ofList (written name), emoji) ∉ table) ∧ shown name = written name := by
  unfold shown
  cases hf : find? (String.ofList (written name)) with
  | none =>
      refine .inr ⟨fun emoji hmem => ?_, rfl⟩
      exact absurd (hf.symm.trans (find?_eq_some_iff.mpr hmem)) (by simp)
  | some emoji => exact .inl ⟨emoji, find?_eq_some_iff.mp hf, rfl⟩

end TeamChat.Emoji
