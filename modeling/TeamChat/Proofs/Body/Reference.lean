import Mathlib.Data.List.Infix
import Mathlib.Data.List.Nodup
import Mathlib.Data.List.TakeWhile
import TeamChat.Body
import TeamChat.Proofs.Text.Numerals
import TeamChat.Proofs.Text.Runs

/-!
# `Body.unescapeList`: where references begin and end

A reference is an ampersand, what names a character, and a semicolon. A character is named by a word from the
table or by its number, so that only letters, digits, number signs and plus signs stand between ampersand and
semicolon. No reference reaches over any other character, and a text may be cut there: what stands before it and
what stands behind it are decoded by themselves.

## Contents
- `Body.reference?_eq_some_iff`: where a reference ends.
- `Body.Names`, `character?_eq_some_iff`: what names a character.
- `Body.Names.isNamePart`: the characters that occur there.
- `Body.unescapeList_append_stop`: a text may be cut where no reference reaches over.
- `Body.unescapeList_append_plain`: what holds no ampersand is copied.
-/

namespace TeamChat.Body

open Numeral (Spells)

variable {plus : Bool} {s t rest name : List Char} {c d : Char} {n base : Nat}

/-! ## References -/

theorem length_le_byteSize (s : List Char) : s.length ≤ byteSize s := by
  induction s with
  | nil => exact Nat.le_refl 0
  | cons c r ih =>
      have hc := c.utf8Size_pos
      rw [List.length_cons, byteSize]
      omega

/-- Up to the first semicolon within eleven characters. -/
theorem takeWhile_take_append (hno : ';' ∉ name) (hle : name.length ≤ 11) :
    ((name ++ ';' :: rest).take 11).takeWhile (· ≠ ';') = name := by
  have hall : ∀ x ∈ name, decide (x ≠ ';') = true :=
    fun x hx => decide_eq_true fun he => hno (he ▸ hx)
  rw [List.take_append, List.take_of_length_le hle, List.takeWhile_append_of_pos hall]
  cases 11 - name.length with
  | zero => exact List.append_nil name
  | succ n => rw [List.take_succ_cons, List.takeWhile_cons_of_neg (by simp), List.append_nil]

/-- **The grammar of references**: a name without semicolon, of at most eleven bytes, that names a character,
    and a semicolon. -/
theorem reference?_eq_some_iff :
    reference? s = some (c, rest) ↔
      ∃ name, s = name ++ ';' :: rest ∧ ';' ∉ name ∧ byteSize name ≤ 11 ∧ character? name = some c := by
  constructor
  · intro h
    simp only [reference?] at h
    -- the name is what stands before the first semicolon, and a part of the text
    have hpre : (s.take 11).takeWhile (· ≠ ';') <+: s :=
      (List.takeWhile_prefix _).trans (List.take_prefix 11 s)
    have hno : ';' ∉ (s.take 11).takeWhile (· ≠ ';') := by
      intro hm
      have hne := List.mem_takeWhile_imp hm
      exact absurd rfl (of_decide_eq_true hne)
    generalize (s.take 11).takeWhile (· ≠ ';') = name at h hpre hno
    have hs := List.prefix_append_drop hpre
    split at h
    · next r hd =>
        split at h
        · next hle =>
            obtain ⟨d, hc, hr⟩ := Option.map_eq_some_iff.mp h
            cases hr
            rw [hd] at hs
            exact ⟨name, hs, hno, hle, hc⟩
        · exact absurd h (by simp)
    · exact absurd h (by simp)
  · rintro ⟨name, rfl, hno, hle, hc⟩
    have hlen := length_le_byteSize name
    simp only [reference?]
    rw [takeWhile_take_append hno (by omega), List.drop_left' rfl]
    simp only []
    rw [if_pos hle, hc]
    rfl

/-! ## What names a character -/

/-- A number behind a number sign: digits, and a plus sign in front of them where one is allowed. -/
def SpellsSigned (plus : Bool) (base : Nat) (s : List Char) (n : Nat) : Prop :=
  Spells base s n ∨ plus = true ∧ ∃ digits, s = '+' :: digits ∧ Spells base digits n

/-- **What a reference says of its character**: a name from the table; or, behind a number sign, the number of the
    character in base ten, or in base sixteen behind an `x` in either case. -/
inductive Names (plus : Bool) : List Char → Char → Prop
  | named {name : String} {c : Char} (h : (name, c.toNat) ∈ namedCharacters) : Names plus name.toList c
  | decimal {number : List Char} {c : Char} (h : SpellsSigned plus 10 number c.toNat) : Names plus ('#' :: number) c
  | hexadecimal {x : Char} {number : List Char} {c : Char} (hx : x = 'x' ∨ x = 'X')
      (h : SpellsSigned plus 16 number c.toNat) : Names plus ('#' :: x :: number) c

theorem SpellsSigned.allowed (h : SpellsSigned plus base s n) : SpellsSigned true base s n :=
  h.imp_right fun h => ⟨rfl, h.2⟩

theorem Names.allowed (h : Names plus name c) : Names true name c := by
  cases h with
  | named h => exact .named h
  | decimal h => exact .decimal h.allowed
  | hexadecimal hx h => exact .hexadecimal hx h.allowed

theorem toNat_ofNat (valid : n.isValidChar) : (Char.ofNat n).toNat = n := by
  unfold Char.ofNat
  rw [dif_pos valid]
  rfl

/-- The number of a character is a scalar value, and every scalar value is the number of a character. -/
theorem scalar?_eq_some_iff : scalar? n = some c ↔ n = c.toNat := by
  unfold scalar?
  rw [Option.ite_none_right_eq_some]
  constructor
  · rintro ⟨valid, hc⟩
    rw [← Option.some.inj hc, toNat_ofNat valid]
  · rintro rfl
    exact ⟨c.valid, congrArg some c.ofNat_toNat⟩

/-- The numbers that are decoded fit in 32 bits, since the numbers of all characters do. -/
theorem number_eq_some_iff (hb : base ≤ 16) :
    (Numeral.readUnsigned? base UInt32.size s).bind scalar? = some c ↔ SpellsSigned true base s c.toNat := by
  have fits : c.toNat < UInt32.size := c.val.toNat_lt
  simp only [Option.bind_eq_some_iff, scalar?_eq_some_iff, exists_eq_right, Numeral.readUnsigned?_eq_some_iff hb]
  exact ⟨fun h => h.2.imp_right fun h => ⟨rfl, h⟩, fun h => ⟨fits, h.imp_right fun h => h.2⟩⟩

theorem all_isAlphanum_namedCharacters :
    (namedCharacters.all fun e => e.1.toList.all Char.isAlphanum) = true := by
  decide +kernel

theorem isAlphanum_of_namedCharacters {e : String × Nat} (he : e ∈ namedCharacters) :
    ∀ x ∈ e.1.toList, x.isAlphanum = true :=
  List.all_eq_true.mp (List.all_eq_true.mp all_isAlphanum_namedCharacters e he)

theorem nodup_namedCharacters : (namedCharacters.map fun e => e.1.toList).Nodup := by
  decide +kernel

theorem toNat_of_namedCharacters : ∀ e ∈ namedCharacters, (Char.ofNat e.2).toNat = e.2 := by
  decide +kernel

/-- **The names of the table** are found, each with its own character. -/
theorem named_eq_some_iff :
    ((namedCharacters.find? fun e => e.1.toList = name).map fun e => Char.ofNat e.2) = some c ↔
      (String.ofList name, c.toNat) ∈ namedCharacters := by
  constructor
  · intro h
    obtain ⟨e, he, rfl⟩ := Option.map_eq_some_iff.mp h
    have hm := List.mem_of_find?_eq_some he
    have hname : e.1.toList = name := of_decide_eq_true (List.find?_some he :)
    rw [toNat_of_namedCharacters e hm, ← hname, String.ofList_toList]
    exact hm
  · intro hm
    have hname : (String.ofList name).toList = name := String.toList_ofList
    have some_ : (namedCharacters.find? fun e => e.1.toList = name).isSome := by
      rw [List.find?_isSome]
      exact ⟨_, hm, decide_eq_true hname⟩
    obtain ⟨e, he⟩ := Option.isSome_iff_exists.mp some_
    -- no other entry has that name
    have same : e = (String.ofList name, c.toNat) := by
      refine List.inj_on_of_nodup_map nodup_namedCharacters (List.mem_of_find?_eq_some he) hm ?_
      exact (of_decide_eq_true (List.find?_some he :)).trans hname.symm
    rw [he, same]
    exact congrArg some c.ofNat_toNat

/-- No number of base ten starts with the letter that announces base sixteen. -/
theorem not_spells_letter {x : Char} (hx : x = 'x' ∨ x = 'X') : ¬ SpellsSigned plus 10 (x :: s) n := by
  have lower : 'x' ∉ Numeral.lowerDigits.take 10 ∧ 'X' ∉ Numeral.lowerDigits.take 10 := by decide
  have upper : 'x' ∉ Numeral.upperDigits.take 10 ∧ 'X' ∉ Numeral.upperDigits.take 10 := by decide
  rintro (h | ⟨_, digits, h, _⟩)
  · have hmem := h.mem x List.mem_cons_self
    rcases hx with rfl | rfl
    · exact hmem.elim lower.1 upper.1
    · exact hmem.elim lower.2 upper.2
  · rw [(List.cons.inj h).1] at hx
    exact absurd hx (by decide)

/-- **What is decoded between ampersand and semicolon**: what the grammar says, with a plus sign allowed. -/
theorem character?_eq_some_iff : character? name = some c ↔ Names true name c := by
  constructor
  · intro h
    unfold character? at h
    split at h
    · exact .hexadecimal (.inl rfl) ((number_eq_some_iff (by decide)).mp h)
    · exact .hexadecimal (.inr rfl) ((number_eq_some_iff (by decide)).mp h)
    · exact .decimal ((number_eq_some_iff (by decide)).mp h)
    · rw [← String.toList_ofList (l := name)]
      exact .named (named_eq_some_iff.mp h)
  · intro h
    cases h with
    | @named name _ hm =>
        have hnone : ∀ r, name.toList ≠ '#' :: r := by
          intro r hr
          have hall := isAlphanum_of_namedCharacters hm '#' (by simp [hr])
          exact absurd hall (by decide)
        unfold character?
        split
        · next hr => exact absurd hr (hnone _)
        · next hr => exact absurd hr (hnone _)
        · next hr => exact absurd hr (hnone _)
        · refine named_eq_some_iff.mpr ?_
          rw [String.ofList_toList]
          exact hm
    | @decimal number _ hn =>
        have value := (number_eq_some_iff (by decide)).mpr hn
        unfold character?
        split
        · next hr =>
            cases hr
            exact absurd hn (not_spells_letter (.inl rfl))
        · next hr =>
            cases hr
            exact absurd hn (not_spells_letter (.inr rfl))
        · next hr =>
            cases hr
            exact value
        · next hr => exact absurd rfl (hr _)
    | hexadecimal hx hn =>
        have value := (number_eq_some_iff (by decide)).mpr hn
        rcases hx with rfl | rfl
        · exact value
        · exact value

/-! ## The characters of a name -/

/-- A letter, a digit, a number sign or a plus sign. -/
def isNamePart (x : Char) : Bool :=
  x.isAlphanum || x == '#' || x == '+'

theorem isNamePart_of_isAlphanum {x : Char} (h : x.isAlphanum = true) : isNamePart x = true := by
  rw [isNamePart, h]
  rfl

theorem SpellsSigned.isNamePart (h : SpellsSigned plus base s n) : ∀ x ∈ s, isNamePart x = true := by
  rcases h with h | ⟨_, digits, rfl, h⟩
  · exact fun x hx => isNamePart_of_isAlphanum (h.isAlphanum x hx)
  · rw [List.forall_mem_cons]
    exact ⟨rfl, fun x hx => isNamePart_of_isAlphanum (h.isAlphanum x hx)⟩

/-- **The characters of what names a character.** -/
theorem Names.isNamePart (h : Names plus name c) : ∀ x ∈ name, isNamePart x = true := by
  cases h with
  | named hm => exact fun x hx => isNamePart_of_isAlphanum (isAlphanum_of_namedCharacters hm x hx)
  | decimal hn =>
      rw [List.forall_mem_cons]
      exact ⟨rfl, hn.isNamePart⟩
  | hexadecimal hx hn =>
      rw [List.forall_mem_cons, List.forall_mem_cons]
      rcases hx with rfl | rfl
      · exact ⟨rfl, rfl, hn.isNamePart⟩
      · exact ⟨rfl, rfl, hn.isNamePart⟩

/-! ## Cutting a text -/

theorem unescapeList_cons_of_ne (hc : c ≠ '&') : unescapeList (c :: s) = c :: unescapeList s := by
  rw [unescapeList, if_neg hc]

theorem unescapeList_of_reference (h : reference? s = some (d, rest)) :
    unescapeList ('&' :: s) = d :: unescapeList rest := by
  rw [unescapeList, if_pos rfl]
  split
  · next d' rest' h' =>
      cases h.symm.trans h'
      rfl
  · next h' => exact absurd (h.symm.trans h') (by simp)

theorem unescapeList_of_no_reference (h : reference? s = none) :
    unescapeList ('&' :: s) = '&' :: unescapeList s := by
  rw [unescapeList, if_pos rfl]
  split
  · next h' => exact absurd (h.symm.trans h') (by simp)
  · rfl

/-- A character that no reference reaches over: neither an ampersand nor a semicolon, nor any that stands in
    the name of a reference. -/
def stops (x : Char) : Bool :=
  !isNamePart x && x != ';' && x != '&'

theorem stops_iff {x : Char} : stops x = true ↔ isNamePart x = false ∧ x ≠ ';' ∧ x ≠ '&' := by
  simp [stops, and_assoc]

section Stop

variable {x : Char} (hx : stops x = true)

include hx

/-- Whether there is a reference is decided before the first character that stops it. -/
theorem reference?_append_stop :
    reference? (s ++ x :: t) = (reference? s).map fun p => (p.1, p.2 ++ x :: t) := by
  obtain ⟨hpart, hsemi, _⟩ := stops_iff.mp hx
  cases hr : reference? s with
  | some p =>
      obtain ⟨name, rfl, hno, hle, hc⟩ := reference?_eq_some_iff.mp hr
      exact reference?_eq_some_iff.mpr ⟨name, by rw [List.append_assoc, List.cons_append], hno, hle, hc⟩
  | none =>
      rw [Option.map_none, Option.eq_none_iff_forall_ne_some]
      intro p hp
      obtain ⟨name, hs, hno, hle, hc⟩ := reference?_eq_some_iff.mp hp
      have hout : x ∉ name := by
        intro hin
        exact absurd (hpart.symm.trans ((character?_eq_some_iff.mp hc).isNamePart x hin)) (by simp)
      -- the reference would end before it
      obtain ⟨more, rfl, _⟩ := Text.mark_before hs hsemi hout
      have hin : reference? (name ++ ';' :: more) = some (p.1, more) :=
        reference?_eq_some_iff.mpr ⟨name, rfl, hno, hle, hc⟩
      exact absurd (hr.symm.trans hin) (by simp)

/-- **A text may be cut where no reference reaches over**: both sides are decoded by themselves. -/
theorem unescapeList_append_stop : unescapeList (s ++ x :: t) = unescapeList s ++ x :: unescapeList t := by
  obtain ⟨_, _, hamp⟩ := stops_iff.mp hx
  fun_induction unescapeList s with
  | case1 => exact unescapeList_cons_of_ne hamp
  | case2 s d rest h _ ih =>
      have hr : reference? (s ++ x :: t) = some (d, rest ++ x :: t) := by
        rw [reference?_append_stop hx, h]
        rfl
      rw [List.cons_append, unescapeList_of_reference hr, ih, List.cons_append]
  | case3 s h ih =>
      have hr : reference? (s ++ x :: t) = none := by
        rw [reference?_append_stop hx, h]
        rfl
      rw [List.cons_append, unescapeList_of_no_reference hr, ih, List.cons_append]
  | case4 c s hc ih => rw [List.cons_append, unescapeList_cons_of_ne hc, ih, List.cons_append]

end Stop

/-- What holds no ampersand is copied. -/
theorem unescapeList_append_plain (hs : '&' ∉ s) : unescapeList (s ++ t) = s ++ unescapeList t := by
  induction s with
  | nil => rfl
  | cons y r ih =>
      rw [List.mem_cons, not_or] at hs
      rw [List.cons_append, unescapeList_cons_of_ne (Ne.symm hs.1), ih hs.2, List.cons_append]

end TeamChat.Body
