import TeamChat.Json.Parser
import TeamChat.Json.Printer
import TeamChat.Proofs.Json.Records
import TeamChat.Proofs.Text.Numerals

/-!
# `Json.Legible`: values read back from their text

The text of a value denotes that value again (`parse?_print`), whichever characters are written as they are and which
are escaped. This holds for values that nest no deeper than the reader follows, hold whole numbers of 64 bits only,
and have their members sorted, each key once (`Legible`). A fraction is left out: it is printed with the fewest
digits that tell it from its neighbours, and the reader rounds twice.

## Contents
- `string?_escape`: a character, whichever of the three ways it is written in.
- `Ends`, `number?_decimal`: a whole number, up to where it ends.
- `Legible`, `ReadsBack`: the values, and what is shown about them.
- `items?_print`, `members?_print`: what stands between brackets.
- `parse?_print`: a whole text.
- `legible_object`, `legible_list`, `legible_record`: what codecs write is legible if the values in it are.
-/

namespace TeamChat.Json
open Numeral

variable {a b c d x : Char} {n : Nat} {r : List Char}

/-! ## Strings -/

theorem string?_plain (hq : c ≠ '"') (hb : c ≠ '\\') (hc : ¬ c.toNat < 0x20) :
    string? (c :: r) = (string? r).map fun (t, r) => (c :: t, r) := by
  rw [string?, if_neg (not_or.mpr ⟨hc, hb⟩)]
  · exact hq
  all_goals
    intros
    contradiction

theorem string?_short (hu : c ≠ 'u') (h : shortEscape? c = some x) :
    string? ('\\' :: c :: r) = (string? r).map fun (t, r) => (x :: t, r) := by
  rw [string?]
  · rw [h]
  all_goals
    intros
    contradiction

theorem string?_unit (h : hex4? a b c d = some n) (hx : unitChar? n = some x) :
    string? ('\\' :: 'u' :: a :: b :: c :: d :: r) = (string? r).map fun (t, r) => (x :: t, r) := by
  -- a second unit that follows is looked at, but only the half of a pair takes it
  by_cases hr : ∃ e f g k r', r = '\\' :: 'u' :: e :: f :: g :: k :: r'
  · obtain ⟨e, f, g, k, r', rfl⟩ := hr
    rw [string?, h]
    simp only [hx]
  · rw [string?]
    · simp only [h, Option.bind_some, hx]
    · intro e f g k r' eq
      exact hr ⟨e, f, g, k, r', eq⟩

theorem string?_pair {e f g k : Char} {high low : Nat} (hh : hex4? a b c d = some high)
    (hl : hex4? e f g k = some low) (half : unitChar? high = none) (hx : pairChar? high low = some x) :
    string? ('\\' :: 'u' :: a :: b :: c :: d :: '\\' :: 'u' :: e :: f :: g :: k :: r) =
      (string? r).map fun (t, r) => (x :: t, r) := by
  rw [string?, hh]
  simp only [half, hl, Option.bind_some, hx]

theorem exists_of_length_four {l : List Char} (h : l.length = 4) : ∃ a b c d, l = [a, b, c, d] := by
  rcases l with _ | ⟨a, _ | ⟨b, _ | ⟨c, _ | ⟨d, _ | ⟨e, l⟩⟩⟩⟩⟩
  case cons.cons.cons.cons.nil => exact ⟨a, b, c, d, rfl⟩
  all_goals
    simp only [List.length_cons, List.length_nil] at h
    omega

/-- A code unit is written with four digits, which are read back. -/
theorem unitEscape_eq (h : n < 0x10000) :
    ∃ a b c d, unitEscape n = ['\\', 'u', a, b, c, d] ∧ hex4? a b c d = some n := by
  have digits : unitEscape n = '\\' :: 'u' :: (filled 16 4 n).map digitChar := by
    simp [unitEscape, filled, hexadecimal, digitChar]
  have length : ((filled 16 4 n).map digitChar).length = 4 := by
    rw [List.length_map]
    exact length_filled (by decide) (by decide) h
  have value := read?_filled (b := 16) (by decide) (by decide) 4 n
  obtain ⟨a, b, c, d, four⟩ := exists_of_length_four length
  rw [four] at digits value
  exact ⟨a, b, c, d, digits, value⟩

theorem toNat_lt (c : Char) : c.toNat < 0x110000 ∧ ¬ (0xD800 ≤ c.toNat ∧ c.toNat ≤ 0xDFFF) := by
  have valid : c.toNat < 0xD800 ∨ (0xDFFF < c.toNat ∧ c.toNat < 0x110000) := c.valid
  omega

theorem string?_charEscape (c : Char) (r : List Char) :
    string? (charEscape c ++ r) = (string? r).map fun (t, r) => (c :: t, r) := by
  obtain ⟨small, whole⟩ := toNat_lt c
  unfold charEscape
  simp only
  split
  · next h =>
      obtain ⟨x, y, z, w, escaped, value⟩ := unitEscape_eq h
      have char : unitChar? c.toNat = some c := by
        rw [unitChar?, if_neg whole, Char.ofNat_toNat]
      rw [escaped]
      exact string?_unit value char
  · -- two halves, of which the first is no character by itself
    next h =>
      obtain ⟨x, y, z, w, escaped, value⟩ := unitEscape_eq (n := 0xD800 + (c.toNat - 0x10000) / 0x400) (by omega)
      obtain ⟨x', y', z', w', escaped', value'⟩ :=
        unitEscape_eq (n := 0xDC00 + (c.toNat - 0x10000) % 0x400) (by omega)
      have half : unitChar? (0xD800 + (c.toNat - 0x10000) / 0x400) = none := by
        rw [unitChar?, if_pos (by omega)]
      have char : pairChar? (0xD800 + (c.toNat - 0x10000) / 0x400) (0xDC00 + (c.toNat - 0x10000) % 0x400) = some c := by
        have number : 0x10000 + (0xD800 + (c.toNat - 0x10000) / 0x400 - 0xD800) * 0x400 +
            (0xDC00 + (c.toNat - 0x10000) % 0x400 - 0xDC00) = c.toNat := by omega
        rw [pairChar?, if_pos (by omega), number, Char.ofNat_toNat]
      rw [escaped, escaped']
      exact string?_pair value value' half char

/-- The three ways to write a character. -/
theorem escape_cases (plain : Char → Bool) (c : Char) :
    (∃ d, escape plain c = ['\\', d] ∧ d ≠ 'u' ∧ shortEscape? d = some c) ∨
    escape plain c = charEscape c ∨
    (escape plain c = [c] ∧ c ≠ '"' ∧ c ≠ '\\' ∧ ¬ c.toNat < 0x20) := by
  unfold escape
  iterate 7
    split
    · next h => exact .inl ⟨_, rfl, by decide, by rw [h]; rfl⟩
  split
  · exact .inr (.inl rfl)
  · next hq hb _ _ _ _ _ hc =>
      refine .inr (.inr ⟨rfl, hq, hb, ?_⟩)
      intro h
      exact hc (by simp [h])

/-- **A character is read back**, however it is written. -/
theorem string?_escape (plain : Char → Bool) (c : Char) (r : List Char) :
    string? (escape plain c ++ r) = (string? r).map fun (t, r) => (c :: t, r) := by
  rcases escape_cases plain c with ⟨d, escaped, hu, short⟩ | escaped | ⟨escaped, hq, hb, hc⟩
  · rw [escaped]
    exact string?_short hu short
  · rw [escaped]
    exact string?_charEscape c r
  · rw [escaped]
    exact string?_plain hq hb hc

theorem string?_escapes (plain : Char → Bool) (cs r : List Char) :
    string? (cs.flatMap (escape plain) ++ '"' :: r) = some (cs, r) := by
  induction cs with
  | nil =>
      rw [List.flatMap_nil, List.nil_append, string?]
  | cons c cs ih =>
      rw [List.flatMap_cons, List.append_assoc, string?_escape, ih]
      rfl

/-! ## Whole numbers -/

/-- Behind a number there stands nothing that could belong to it. -/
def Ends (rest : List Char) : Prop :=
  ∀ c ∈ rest.head?, c.isDigit = false ∧ c ≠ '.' ∧ c ≠ 'e' ∧ c ≠ 'E'

theorem ends_nil : Ends [] := by
  intro c hc
  cases hc

/-- Whatever stands behind a value in brackets ends a number. -/
theorem ends_cons (h : c = ',' ∨ c = ']' ∨ c = '\x7d') : Ends (c :: r) := by
  intro x hx
  cases hx
  rcases h with rfl | rfl | rfl <;> decide

theorem leadingDigits_decimal (n : Nat) {rest : List Char} (h : Ends rest) :
    leadingDigits (decimal n ++ rest) = digits 10 n ∧ (decimal n ++ rest).dropWhile Char.isDigit = rest := by
  have run : ∀ c ∈ decimal n, c.isDigit = true := by
    intro c hc
    obtain ⟨d, hd, rfl⟩ := List.mem_map.mp hc
    exact isDigit_digitChar (digits_lt (by decide) hd)
  have stop : rest.takeWhile Char.isDigit = [] ∧ rest.dropWhile Char.isDigit = rest := by
    cases rest with
    | nil => exact ⟨rfl, rfl⟩
    | cons c r =>
        have hc := (h c rfl).1
        exact ⟨List.takeWhile_cons_of_neg (by simp [hc]), List.dropWhile_cons_of_neg (by simp [hc])⟩
  constructor
  · unfold leadingDigits
    rw [List.takeWhile_append_of_pos run, stop.1, List.append_nil, decimal, List.map_map]
    refine (List.map_congr_left fun d hd => ?_).trans (List.map_id _)
    exact toNat_digitChar (digits_lt (by decide) hd)
  · rw [List.dropWhile_append_of_pos run, stop.2]

theorem le_foldl_digits (v : Nat) (ds : List Nat) : v ≤ ds.foldl (fun n d => n * 10 + d) v := by
  induction ds generalizing v with
  | nil => exact Nat.le_refl v
  | cons d ds ih => exact Nat.le_trans (by omega) (ih (v * 10 + d))

/-- Digits that fit are gathered to their number. -/
theorem foldl_addWhole {v : Nat} {ds : List Nat} (h : ds.foldl (fun n d => n * 10 + d) v < UInt64.size) :
    ds.foldl addWhole ⟨v, 0, false⟩ = ⟨ds.foldl (fun n d => n * 10 + d) v, 0, false⟩ := by
  induction ds generalizing v with
  | nil => rfl
  | cons d ds ih =>
      have fits : v * 10 + d < UInt64.size := Nat.lt_of_le_of_lt (le_foldl_digits _ ds) h
      have step : addWhole ⟨v, 0, false⟩ d = ⟨v * 10 + d, 0, false⟩ := by
        unfold addWhole
        rw [if_neg (by simpa using fits)]
      rw [List.foldl_cons, step]
      exact ih h

theorem fraction?_of_ends {rest : List Char} (h : Ends rest) : fraction? rest = some (none, rest) := by
  cases rest with
  | nil => rfl
  | cons c r =>
      unfold fraction?
      split
      · next heq => exact absurd (List.cons.inj heq).1 (h c rfl).2.1
      · rfl

theorem exponent?_of_ends {rest : List Char} (h : Ends rest) : exponent? rest = some (none, rest) := by
  cases rest with
  | nil => rfl
  | cons c r =>
      obtain ⟨_, _, he, hE⟩ := h c rfl
      exact if_neg (not_or.mpr ⟨he, hE⟩)

/-- A number without point and exponent is what its digits are assembled to. -/
theorem number?_decimal (negative : Bool) (n : Nat) {rest : List Char} (h : Ends rest) :
    number? negative (decimal n ++ rest) = (assemble? negative (digits 10 n) none none).map (·, rest) := by
  obtain ⟨lead, drop⟩ := leadingDigits_decimal n h
  unfold number?
  rw [lead, drop]
  split
  · next hd => exact absurd hd (digits_ne_nil 10 n)
  · next hd => exact absurd (digits_eq_zero_cons hd) (List.cons_ne_nil _ _)
  · simp only [fraction?_of_ends h, exponent?_of_ends h]

theorem assemble?_digits (negative : Bool) {n : Nat} (h : n < UInt64.size)
    (hn : negative = true → 0 < n ∧ Int64.minValue.toInt ≤ -(n : Int)) :
    assemble? negative (digits 10 n) none none = some (.int (if negative then -(n : Int) else n)) := by
  have number : (digits 10 n).foldl (fun n d => n * 10 + d) 0 = n := value_digits 10 n
  have gathered : (digits 10 n).foldl addWhole ⟨0, 0, false⟩ = ⟨n, 0, false⟩ := by
    rw [foldl_addWhole (by rw [number]; exact h), number]
  unfold assemble?
  rw [gathered]
  cases negative with
  | false => rfl
  | true =>
      obtain ⟨pos, low⟩ := hn rfl
      have no_float : ¬ (n = 0 ∨ -(n : Int) < Int64.minValue.toInt) := by omega
      simp only [no_float, if_false]
      rfl

/-! ## The first character -/

/-- A character that a value can start with: no blank, and not the bracket that closes an empty list. -/
def Opens (c : Char) : Prop :=
  c ≠ ' ' ∧ c ≠ '\n' ∧ c ≠ '\t' ∧ c ≠ '\r' ∧ c ≠ ']'

instance (c : Char) : Decidable (Opens c) :=
  inferInstanceAs (Decidable (_ ∧ _))

theorem skipBlank_of_opens (h : Opens c) (r : List Char) : skipBlank (c :: r) = c :: r := by
  obtain ⟨space, line, tab, back, _⟩ := h
  unfold skipBlank
  rw [List.dropWhile_cons_of_neg]
  simp [space, line, tab, back]

theorem ne_of_isDigit (hc : c.isDigit = true) (hd : d.isDigit = false) : c ≠ d := by
  rintro rfl
  rw [hc] at hd
  cases hd

theorem opens_of_isDigit (hc : c.isDigit = true) : Opens c := by
  refine ⟨?_, ?_, ?_, ?_, ?_⟩
  all_goals exact ne_of_isDigit hc (by decide)

/-! ## Values -/

/-- The values whose text is read back when `k` more brackets may open: they nest no deeper, hold whole numbers of
    64 bits only, and have sorted members. -/
inductive Legible : Nat → Json → Prop
  | null {k : Nat} : Legible k .null
  | bool {k : Nat} (b : Bool) : Legible k (.bool b)
  | int {k : Nat} (z : Int) (low : Int64.minValue.toInt ≤ z) (high : z < UInt64.size) : Legible k (.num (.int z))
  | str {k : Nat} (s : String) : Legible k (.str s)
  | arr {k : Nat} (items : List Json) (legible : ∀ v ∈ items, Legible k v) : Legible (k + 1) (.arr items)
  | obj {k : Nat} (members : List (String × Json)) (sorted : (keys members).Pairwise (· < ·))
      (legible : ∀ m ∈ members, Legible k m.2) : Legible (k + 1) (.obj members)

variable {plain : Char → Bool} {v : Json} {fuel depth : Nat} {rest : List Char}

theorem value?_null : value? (fuel + 1) depth (print plain .null ++ rest) = some (.null, rest) := by
  simp [value?, print, skipBlank]

theorem value?_bool (b : Bool) :
    value? (fuel + 1) depth (print plain (.bool b) ++ rest) = some (.bool b, rest) := by
  cases b <;> simp [value?, print, skipBlank]

theorem value?_str (s : String) :
    value? (fuel + 1) depth (print plain (.str s) ++ rest) = some (.str s, rest) := by
  have text := string?_escapes plain s.toList rest
  simp [value?, print, skipBlank, quoted, text]

/-- What starts with a digit is a number. -/
theorem value?_of_isDigit {cs : List Char} (hc : c.isDigit = true) :
    value? (fuel + 1) depth (c :: cs) = (number? false (c :: cs)).map fun (n, r) => (.num n, r) := by
  unfold value?
  rw [skipBlank_of_opens (opens_of_isDigit hc)]
  -- every other case starts with a character that is no digit
  split
  all_goals first
    | rfl
    | next heq => exact absurd (List.cons.inj heq).1 (ne_of_isDigit hc (by decide))

theorem value?_int {z : Int} (low : Int64.minValue.toInt ≤ z) (high : z < UInt64.size) (he : Ends rest) :
    value? (fuel + 1) depth (print plain (.num (.int z)) ++ rest) = some (.num (.int z), rest) := by
  show value? (fuel + 1) depth (signed z ++ rest) = _
  unfold signed
  have size : z.natAbs < UInt64.size := by
    have : Int64.minValue.toInt = -9223372036854775808 := rfl
    have : UInt64.size = 18446744073709551616 := rfl
    omega
  split
  · next hneg =>
      have parts := assemble?_digits true size fun _ => by omega
      have number : -(z.natAbs : Int) = z := by omega
      simp only [if_true, number] at parts
      simp [value?, skipBlank, number?_decimal true _ he, parts]
  · next hneg =>
      have parts := assemble?_digits false size nofun
      have number : (z.natAbs : Int) = z := by omega
      simp only [Bool.false_eq_true, if_false, number] at parts
      obtain ⟨c, cs, hc, digit⟩ := decimal_cons z.natAbs
      have read := number?_decimal false z.natAbs he
      rw [hc, parts] at read
      rw [hc, List.cons_append, value?_of_isDigit digit, ← List.cons_append, read]
      rfl

theorem print_cons (plain : Char → Bool) {k : Nat} (h : Legible k v) :
    ∃ c cs, print plain v = c :: cs ∧ Opens c := by
  cases h with
  | null => exact ⟨'n', _, rfl, by decide⟩
  | bool b =>
      cases b with
      | false => exact ⟨'f', _, rfl, by decide⟩
      | true => exact ⟨'t', _, rfl, by decide⟩
  | int z low high =>
      show ∃ c cs, signed z = c :: cs ∧ Opens c
      unfold signed
      split
      · exact ⟨'-', _, rfl, by decide⟩
      · obtain ⟨c, cs, hc, digit⟩ := decimal_cons z.natAbs
        exact ⟨c, cs, hc, opens_of_isDigit digit⟩
  | str s => exact ⟨'"', _, rfl, by decide⟩
  | arr items legible => exact ⟨'[', _, rfl, by decide⟩
  | obj members sorted legible => exact ⟨'\x7b', _, rfl, by decide⟩

theorem printItems_cons (plain : Char → Bool) {k : Nat} (h : Legible k v) (items : List Json) :
    ∃ c cs, printItems plain (v :: items) = c :: cs ∧ Opens c := by
  obtain ⟨c, cs, hc, opens⟩ := print_cons plain h
  cases items with
  | nil => exact ⟨c, cs, hc, opens⟩
  | cons w items =>
      refine ⟨c, cs ++ ',' :: printItems plain (w :: items), ?_, opens⟩
      show print plain v ++ _ = _
      rw [hc]
      rfl

/-- A value that is read back from its text, whatever follows, given steps enough. -/
def ReadsBack (plain : Char → Bool) (depth : Nat) (v : Json) : Prop :=
  ∀ fuel rest, 2 * (print plain v).length ≤ fuel → Ends rest →
    value? fuel depth (print plain v ++ rest) = some (v, rest)

theorem items?_print {items : List Json} (hne : items ≠ []) (h : ∀ v ∈ items, ReadsBack plain depth v)
    (hf : 2 * (printItems plain items).length < fuel) :
    items? fuel depth (printItems plain items ++ ']' :: rest) = some (items, rest) := by
  induction items generalizing fuel with
  | nil => exact absurd rfl hne
  | cons v items ih =>
      -- one step goes to this item, and its text is long enough to leave the others theirs
      obtain ⟨fuel, rfl⟩ : ∃ f, fuel = f + 1 := ⟨fuel - 1, by omega⟩
      cases items with
      | nil =>
          have first := h v List.mem_cons_self fuel (']' :: rest) (by simp [printItems] at hf; omega)
            (ends_cons (.inr (.inl rfl)))
          simp only [items?, printItems, first]
          rfl
      | cons w items =>
          simp only [printItems, List.length_append, List.length_cons] at hf
          have first := h v List.mem_cons_self fuel (',' :: (printItems plain (w :: items) ++ ']' :: rest)) (by omega)
            (ends_cons (.inl rfl))
          have others : items? fuel depth (printItems plain (w :: items) ++ ']' :: rest) = some (w :: items, rest) :=
            ih (List.cons_ne_nil _ _) (fun x hx => h x (List.mem_cons_of_mem _ hx)) (by omega)
          simp only [items?, printItems, List.append_assoc, List.cons_append, first]
          show (items? fuel depth (printItems plain (w :: items) ++ ']' :: rest)).map _ = _
          rw [others]
          rfl

theorem members?_print {members before : List (String × Json)} (hne : members ≠ [])
    (sorted : (keys (before ++ members)).Pairwise (· < ·)) (h : ∀ m ∈ members, ReadsBack plain depth m.2)
    (hf : 2 * (printMembers plain members).length < fuel) :
    members? fuel depth before (printMembers plain members ++ '\x7d' :: rest) = some (before ++ members, rest) := by
  induction members generalizing fuel before with
  | nil => exact absurd rfl hne
  | cons m members ih =>
      obtain ⟨k, v⟩ := m
      obtain ⟨fuel, rfl⟩ : ∃ f, fuel = f + 1 := ⟨fuel - 1, by omega⟩
      -- the members are sorted, so each is put behind those that have been read
      have last : put k v before = before ++ [(k, v)] := by
        refine put_of_lt fun k' hk' => ?_
        rw [keys, List.map_append, List.pairwise_append] at sorted
        exact sorted.2.2 k' hk' k List.mem_cons_self
      have key (r : List Char) := string?_escapes plain k.toList r
      have own : ReadsBack plain depth v := h (k, v) List.mem_cons_self
      cases members with
      | nil =>
          have value := own fuel ('\x7d' :: rest) (by simp [printMembers] at hf; omega)
            (ends_cons (.inr (.inr rfl)))
          simp [members?, printMembers, quoted, skipBlank, key, value, last]
      | cons w members =>
          simp only [printMembers, List.length_append, List.length_cons] at hf
          have value := own fuel (',' :: (printMembers plain (w :: members) ++ '\x7d' :: rest)) (by omega)
            (ends_cons (.inl rfl))
          have sorted' : (keys ((before ++ [(k, v)]) ++ w :: members)).Pairwise (· < ·) := by
            rw [← List.append_cons]
            exact sorted
          have others : members? fuel depth (before ++ [(k, v)]) (printMembers plain (w :: members) ++ '\x7d' :: rest) =
              some (before ++ [(k, v)] ++ w :: members, rest) :=
            ih (List.cons_ne_nil _ _) sorted' (fun x hx => h x (List.mem_cons_of_mem _ hx)) (by omega)
          simp [members?, printMembers, quoted, skipBlank, key, value, last, others]

theorem printMembers_cons (plain : Char → Bool) (m : String × Json) (members : List (String × Json)) :
    ∃ cs, printMembers plain (m :: members) = '"' :: cs := by
  cases members with
  | nil => exact ⟨_, rfl⟩
  | cons w members => exact ⟨_, rfl⟩

theorem readsBack_intro {k : Nat} (h : Legible k v)
    (step : ∀ fuel rest, 2 * (print plain v).length ≤ fuel + 1 → Ends rest →
      value? (fuel + 1) k (print plain v ++ rest) = some (v, rest)) : ReadsBack plain k v := by
  intro fuel rest hf he
  obtain ⟨c, cs, hc, _⟩ := print_cons plain h
  cases fuel with
  | zero =>
      rw [hc] at hf
      cases hf
  | succ fuel => exact step fuel rest hf he

/-- A bracket opens a list of items, unless it is closed at once. -/
theorem value?_bracket {c : Char} {r : List Char} (h : Opens c) :
    value? (fuel + 1) (depth + 1) ('[' :: c :: r) =
      (items? fuel depth (c :: r)).map fun (xs, r) => (.arr xs, r) := by
  have bracket : Opens '[' := by decide
  simp only [value?, skipBlank_of_opens bracket, skipBlank_of_opens h]
  split
  · next heq => exact absurd (List.cons.inj heq).1 h.2.2.2.2
  · rfl

theorem readsBack_arr {k : Nat} {items : List Json} (legible : ∀ v ∈ items, Legible k v)
    (h : ∀ v ∈ items, ReadsBack plain k v) : ReadsBack plain (k + 1) (.arr items) := by
  refine readsBack_intro (.arr items legible) ?_
  intro fuel rest hf he
  cases items with
  | nil => simp [value?, print, printItems, skipBlank]
  | cons v items =>
      simp only [print, List.length_append, List.length_cons] at hf
      have all : items? fuel k (printItems plain (v :: items) ++ ']' :: rest) = some (v :: items, rest) :=
        items?_print (List.cons_ne_nil v items) h (by omega)
      obtain ⟨c, cs, hc, opens⟩ := printItems_cons plain (legible v List.mem_cons_self) items
      show value? (fuel + 1) (k + 1) ('[' :: printItems plain (v :: items) ++ [']'] ++ rest) = _
      rw [List.append_assoc, List.cons_append]
      rw [hc] at all ⊢
      rw [List.cons_append, value?_bracket opens]
      exact congrArg (Option.map _) all

theorem readsBack_obj {k : Nat} {members : List (String × Json)} (sorted : (keys members).Pairwise (· < ·))
    (legible : ∀ m ∈ members, Legible k m.2) (h : ∀ m ∈ members, ReadsBack plain k m.2) :
    ReadsBack plain (k + 1) (.obj members) := by
  refine readsBack_intro (.obj members sorted legible) ?_
  intro fuel rest hf he
  cases members with
  | nil => simp [value?, print, printMembers, skipBlank]
  | cons m members =>
      simp only [print, List.length_append, List.length_cons] at hf
      have all : members? fuel k [] (printMembers plain (m :: members) ++ '\x7d' :: rest) =
          some ([] ++ m :: members, rest) :=
        members?_print (List.cons_ne_nil m members) sorted h (by omega)
      obtain ⟨cs, hc⟩ := printMembers_cons plain m members
      show value? (fuel + 1) (k + 1) ('\x7b' :: printMembers plain (m :: members) ++ ['\x7d'] ++ rest) = _
      rw [List.append_assoc, List.cons_append]
      rw [hc] at all ⊢
      exact congrArg (Option.map _) all

/-- **A legible value is read back** from its text. -/
theorem Legible.readsBack {k : Nat} (h : Legible k v) (plain : Char → Bool) : ReadsBack plain k v := by
  induction h with
  | null => exact readsBack_intro .null fun _ _ _ _ => value?_null
  | bool b => exact readsBack_intro (.bool b) fun _ _ _ _ => value?_bool b
  | int z low high => exact readsBack_intro (.int z low high) fun _ _ _ he => value?_int low high he
  | str s => exact readsBack_intro (.str s) fun _ _ _ _ => value?_str s
  | arr items legible ih => exact readsBack_arr legible ih
  | obj members sorted legible ih => exact readsBack_obj sorted legible ih

/-- **The text of a legible value denotes it**, whichever characters are escaped. -/
theorem parse?_print {v : Json} (h : Legible maxDepth v) : parse? (String.ofList (print plain v)) = some v := by
  have read := h.readsBack plain (2 * (print plain v).length + 2) [] (by omega) ends_nil
  rw [List.append_nil] at read
  unfold parse?
  simp only [String.toList_ofList, read]
  rfl

/-! ## Objects -/

theorem legible_object {k : Nat} {members : List (String × Json)} (h : ∀ m ∈ members, Legible k m.2) :
    Legible (k + 1) (object members) := by
  refine .obj (collect members []) (sorted_collect List.Pairwise.nil) ?_
  intro m hm
  rcases mem_collect hm with hm | hm
  · cases hm
  · exact h m hm

theorem legible_list {α : Type} {c : Codec α} {k : Nat} {xs : List α} (h : ∀ x ∈ xs, Legible k (c.encode x)) :
    Legible (k + 1) ((Codec.list c).encode xs) := by
  refine .arr (xs.map c.encode) ?_
  intro v hv
  obtain ⟨x, hx, rfl⟩ := List.mem_map.mp hv
  exact h x hx

theorem legible_record {ρ : Type} {t : Record ρ} {r : ρ} {k : Nat} (h : ∀ f ∈ t.fields, Legible k (f.write r)) :
    Legible (k + 1) (t.codec.encode r) := by
  refine legible_object ?_
  intro m hm
  obtain ⟨f, hf, rfl⟩ := List.mem_map.mp hm
  exact h f hf

end TeamChat.Json
