import TeamChat.Proofs.Body.Reference

/-!
# `Body.unescape`: which references are decoded

`Decoded` says what decoding a text means without saying how references are found: at each ampersand either a
reference of the grammar begins, or none does. The grammar comes in two forms, with and without a plus sign in
front of numbers. The decoder follows the first one (`decoded_iff`), since it hands the digits to a reader of
numbers that knows signs. Where a reference with a plus sign occurs, what it gives is shorter than what the
grammar without plus signs gives, and nowhere else is there a difference (`Decoded.compare`). What is escaped is
written with references that are in both grammars, so decoding gives it back.

## Contents
- `Body.IsReference`, `reference?_iff`: a whole reference.
- `Body.Decoded`, `decoded_iff`: a text and what it is decoded to.
- `Body.HoldsPlus`, `Decoded.compare`, `unescape_by_grammar`: the two grammars beside each other.
- `Body.unescape_escape`: decoding gives back what was escaped.
-/

namespace TeamChat.Body

variable {plus : Bool} {s t rest name written out : List Char} {c : Char}

/-! ## References in a text -/

/-- **A reference to a character**: an ampersand, what names the character, and a semicolon; thirteen bytes at
    most. -/
def IsReference (plus : Bool) (written : List Char) (c : Char) : Prop :=
  ∃ name, written = '&' :: (name ++ [';']) ∧ Names plus name c ∧ (String.ofList written).utf8ByteSize ≤ 13

theorem byteSize_eq (s : List Char) : byteSize s = (String.ofList s).utf8ByteSize := by
  induction s with
  | nil => rfl
  | cons c r ih => rw [byteSize, ih, String.ofList_cons, String.utf8ByteSize_append, String.utf8ByteSize_singleton]

theorem byteSize_reference (name : List Char) :
    (String.ofList ('&' :: (name ++ [';']))).utf8ByteSize = byteSize name + 2 := by
  rw [String.ofList_cons, String.ofList_append, String.utf8ByteSize_append, String.utf8ByteSize_append, byteSize_eq]
  have amp : (String.singleton '&').utf8ByteSize = 1 := rfl
  have semi : (String.ofList [';']).utf8ByteSize = 1 := rfl
  omega

/-- Neither an ampersand nor a semicolon stands in what names a character. -/
theorem Names.plain (h : Names plus name c) : '&' ∉ name ∧ ';' ∉ name := by
  constructor
  · intro hm
    exact absurd (h.isNamePart '&' hm) (by decide)
  · intro hm
    exact absurd (h.isNamePart ';' hm) (by decide)

/-- **A reference is found exactly where one begins.** -/
theorem reference?_iff :
    reference? s = some (c, rest) ↔ ∃ written, '&' :: s = written ++ rest ∧ IsReference true written c := by
  rw [reference?_eq_some_iff]
  constructor
  · rintro ⟨name, rfl, _, hle, hc⟩
    have size := byteSize_reference name
    exact ⟨'&' :: (name ++ [';']), by simp, name, rfl, character?_eq_some_iff.mp hc, by omega⟩
  · rintro ⟨_, hs, name, rfl, hn, hle⟩
    have size := byteSize_reference name
    refine ⟨name, ?_, hn.plain.2, by omega, character?_eq_some_iff.mpr hn⟩
    simpa using hs

/-- **Decoding from left to right.** A reference is replaced by its character, and decoding goes on behind it; an
    ampersand at which no reference begins is copied, and so is every other character. -/
inductive Decoded (plus : Bool) : List Char → List Char → Prop
  | nil : Decoded plus [] []
  | reference {written rest out : List Char} {c : Char} (h : IsReference plus written c)
      (behind : Decoded plus rest out) : Decoded plus (written ++ rest) (c :: out)
  | ampersand {rest out : List Char} (h : ∀ written c, written <+: '&' :: rest → ¬ IsReference plus written c)
      (behind : Decoded plus rest out) : Decoded plus ('&' :: rest) ('&' :: out)
  | other {c : Char} {rest out : List Char} (h : c ≠ '&')
      (behind : Decoded plus rest out) : Decoded plus (c :: rest) (c :: out)

theorem reference?_eq_none_iff :
    reference? s = none ↔ ∀ written c, written <+: '&' :: s → ¬ IsReference true written c := by
  rw [Option.eq_none_iff_forall_ne_some]
  constructor
  · rintro h written c ⟨rest, hs⟩ hr
    exact h (c, rest) (reference?_iff.mpr ⟨written, hs.symm, hr⟩)
  · rintro h ⟨c, rest⟩ hr
    obtain ⟨written, hs, hr⟩ := reference?_iff.mp hr
    exact h written c ⟨rest, hs.symm⟩ hr

theorem IsReference.unescapeList (h : IsReference true written c) :
    unescapeList (written ++ rest) = c :: unescapeList rest := by
  obtain ⟨name, rfl, hn⟩ := id h
  exact unescapeList_of_reference (reference?_iff.mpr ⟨_, rfl, h⟩)

/-- **The decoder follows the grammar with the plus sign**, on every text. -/
theorem decoded_iff : Decoded true s out ↔ out = unescapeList s := by
  constructor
  · intro h
    induction h with
    | nil => rw [Body.unescapeList]
    | reference h _ ih => rw [h.unescapeList, ih]
    | ampersand h _ ih => rw [unescapeList_of_no_reference (reference?_eq_none_iff.mpr h), ih]
    | other h _ ih => rw [unescapeList_cons_of_ne h, ih]
  · rintro rfl
    fun_induction unescapeList s with
    | case1 => exact .nil
    | case2 s d rest h _ ih =>
        obtain ⟨written, hs, hr⟩ := reference?_iff.mp h
        rw [hs]
        exact .reference hr ih
    | case3 s h ih => exact .ampersand (reference?_eq_none_iff.mp h) ih
    | case4 c s hc ih => exact .other hc ih

/-! ## Plus signs -/

/-- A reference with a plus sign occurs in a text. -/
def HoldsPlus (s : List Char) : Prop :=
  ∃ written c, written <:+: s ∧ IsReference true written c ∧ '+' ∈ written

/-- The plus sign is all that tells the two grammars apart. -/
theorem Names.strict_iff : Names false name c ↔ Names true name c ∧ '+' ∉ name := by
  constructor
  · intro h
    refine ⟨h.allowed, ?_⟩
    cases h with
    | named hm =>
        intro hplus
        exact absurd (isAlphanum_of_namedCharacters hm '+' hplus) (by decide)
    | decimal hn =>
        have hn := hn.resolve_right (fun h => Bool.noConfusion h.1)
        simpa using hn.not_plus
    | hexadecimal hx hn =>
        have hn := hn.resolve_right (fun h => Bool.noConfusion h.1)
        rcases hx with rfl | rfl
        · simpa using hn.not_plus
        · simpa using hn.not_plus
  · rintro ⟨h, hplus⟩
    have unsigned {base : Nat} {number : List Char} (hn : SpellsSigned true base number c.toNat)
        (hno : '+' ∉ number) : SpellsSigned false base number c.toNat := by
      refine .inl (hn.resolve_right ?_)
      rintro ⟨_, digits, rfl, _⟩
      exact hno List.mem_cons_self
    cases h with
    | named hm => exact .named hm
    | decimal hn => exact .decimal (unsigned hn fun h => hplus (List.mem_cons_of_mem _ h))
    | hexadecimal hx hn =>
        exact .hexadecimal hx (unsigned hn fun h => hplus (List.mem_cons_of_mem _ (List.mem_cons_of_mem _ h)))

theorem IsReference.strict_iff : IsReference false written c ↔ IsReference true written c ∧ '+' ∉ written := by
  constructor
  · rintro ⟨name, rfl, hn, hle⟩
    obtain ⟨hn, hplus⟩ := Names.strict_iff.mp hn
    exact ⟨⟨name, rfl, hn, hle⟩, by simpa using hplus⟩
  · rintro ⟨⟨name, rfl, hn, hle⟩, hplus⟩
    refine ⟨name, rfl, Names.strict_iff.mpr ⟨hn, ?_⟩, hle⟩
    intro h
    exact hplus (by simp [h])

/-- Behind its ampersand a reference holds no other. -/
theorem IsReference.tail (h : IsReference true written c) : ∃ r, written = '&' :: r ∧ '&' ∉ r ∧ r ≠ [] := by
  obtain ⟨name, rfl, hn, _⟩ := h
  exact ⟨name ++ [';'], rfl, by simpa using hn.plain.1, by simp⟩

/-- At one place there is one reference. -/
theorem IsReference.unique {written' : List Char} {c' : Char} (h : IsReference true written c)
    (h' : IsReference true written' c') (hw : written <+: s) (hw' : written' <+: s) : written = written' := by
  obtain ⟨r, rfl, _⟩ := h.tail
  obtain ⟨rest, rfl⟩ := hw
  obtain ⟨rest', hs⟩ := hw'
  have one : reference? (r ++ rest) = some (c, rest) := reference?_iff.mpr ⟨_, rfl, h⟩
  have other : reference? (r ++ rest) = some (c', rest') := reference?_iff.mpr ⟨_, hs.symm, h'⟩
  obtain ⟨_, rfl⟩ := Prod.mk.inj (Option.some.inj (one.symm.trans other))
  exact (List.append_cancel_right hs).symm

theorem holdsPlus_cons_of_ne (hc : c ≠ '&') : HoldsPlus (c :: s) ↔ HoldsPlus s := by
  constructor
  · rintro ⟨written, d, hw, hr, hplus⟩
    rcases List.infix_cons_iff.mp hw with hw | hw
    · obtain ⟨r, rfl, _⟩ := hr.tail
      exact absurd (List.cons_prefix_cons.mp hw).1.symm hc
    · exact ⟨written, d, hw, hr, hplus⟩
  · rintro ⟨written, d, hw, h⟩
    exact ⟨written, d, hw.trans (List.suffix_cons c s).isInfix, h⟩

theorem holdsPlus_append_plain (ht : '&' ∉ t) : HoldsPlus (t ++ s) ↔ HoldsPlus s := by
  induction t with
  | nil => exact Iff.rfl
  | cons y r ih =>
      rw [List.mem_cons, not_or] at ht
      rw [List.cons_append, holdsPlus_cons_of_ne (Ne.symm ht.1), ih ht.2]

/-- A plus sign stands in the reference at the front, or behind it. -/
theorem IsReference.holdsPlus_iff (h : IsReference true written c) :
    HoldsPlus (written ++ rest) ↔ '+' ∈ written ∨ HoldsPlus rest := by
  obtain ⟨r, rfl, hamp, _⟩ := h.tail
  constructor
  · rintro ⟨written', d, hw, hr, hplus⟩
    rcases List.infix_cons_iff.mp hw with hw | hw
    · rw [← hr.unique h hw (List.prefix_append _ _)]
      exact .inl hplus
    · exact .inr ((holdsPlus_append_plain hamp).mp ⟨written', d, hw, hr, hplus⟩)
  · rintro (hplus | ⟨written', d, hw, hr⟩)
    · exact ⟨_, c, (List.prefix_append _ _).isInfix, h, hplus⟩
    · exact ⟨written', d, hw.trans (List.suffix_append _ _).isInfix, hr⟩

/-- Where no reference begins, a plus sign stands in one behind. -/
theorem holdsPlus_ampersand (h : reference? s = none) : HoldsPlus ('&' :: s) ↔ HoldsPlus s := by
  constructor
  · rintro ⟨written, d, hw, hr, hplus⟩
    rcases List.infix_cons_iff.mp hw with hw | hw
    · exact absurd hr (reference?_eq_none_iff.mp h written d hw)
    · exact ⟨written, d, hw, hr, hplus⟩
  · rintro ⟨written, d, hw, hr⟩
    exact ⟨written, d, hw.trans (List.suffix_cons _ s).isInfix, hr⟩

/-- Where no reference has a plus sign, the grammar without it is followed too. -/
theorem Decoded.strict (h : Decoded true s out) (hs : ¬ HoldsPlus s) : Decoded false s out := by
  induction h with
  | nil => exact .nil
  | reference hr _ ih =>
      rw [hr.holdsPlus_iff, not_or] at hs
      exact .reference (IsReference.strict_iff.mpr ⟨hr, hs.1⟩) (ih hs.2)
  | ampersand hno _ ih =>
      rw [holdsPlus_ampersand (reference?_eq_none_iff.mpr hno)] at hs
      refine .ampersand ?_ (ih hs)
      intro written c hw hr
      exact hno written c hw (IsReference.strict_iff.mp hr).1
  | other hc _ ih =>
      rw [holdsPlus_cons_of_ne hc] at hs
      exact .other hc (ih hs)

/-- **Where a reference has a plus sign, the decoder goes further than the grammar without it**: what it gives is
    shorter. Otherwise it gives the same. -/
theorem Decoded.compare (h : Decoded false s out) :
    (¬ HoldsPlus s → out = unescapeList s) ∧ (HoldsPlus s → (unescapeList s).length < out.length) := by
  induction h with
  | nil =>
      refine ⟨fun _ => by rw [unescapeList], ?_⟩
      rintro ⟨written, c, hw, hr, _⟩
      obtain ⟨r, rfl, _⟩ := hr.tail
      exact absurd (List.infix_nil.mp hw) (List.cons_ne_nil _ _)
  | @reference written rest out c hr _ ih =>
      obtain ⟨hr, hplus⟩ := IsReference.strict_iff.mp hr
      have hiff : HoldsPlus (written ++ rest) ↔ HoldsPlus rest := by
        rw [hr.holdsPlus_iff]
        exact or_iff_right hplus
      rw [hiff, hr.unescapeList, List.cons_inj_right, List.length_cons, List.length_cons, Nat.succ_lt_succ_iff]
      exact ih
  | @ampersand rest out hno _ ih =>
      cases hr : reference? rest with
      | none =>
          rw [holdsPlus_ampersand hr, unescapeList_of_no_reference hr, List.cons_inj_right, List.length_cons,
            List.length_cons, Nat.succ_lt_succ_iff]
          exact ih
      | some p =>
          -- the decoder takes a reference with a plus sign; the grammar copies what stands in it
          obtain ⟨c, behind⟩ := p
          obtain ⟨written, hs, hw⟩ := reference?_iff.mp hr
          have hplus : '+' ∈ written := by
            by_contra hunsigned
            exact hno written c ⟨behind, hs.symm⟩ (IsReference.strict_iff.mpr ⟨hw, hunsigned⟩)
          have holds : HoldsPlus ('&' :: rest) := by
            rw [hs]
            exact hw.holdsPlus_iff.mpr (.inl hplus)
          obtain ⟨r, rfl, hamp, hne⟩ := hw.tail
          have hrest : rest = r ++ behind := (List.cons.inj hs).2
          have copied : (unescapeList rest).length = r.length + (unescapeList behind).length := by
            rw [hrest, unescapeList_append_plain hamp, List.length_append]
          have longer : (unescapeList rest).length ≤ out.length := by
            by_cases hr : HoldsPlus rest
            · exact Nat.le_of_lt (ih.2 hr)
            · rw [ih.1 hr]
          have some_ := List.length_pos_of_ne_nil hne
          refine ⟨fun h => absurd holds h, fun _ => ?_⟩
          rw [unescapeList_of_reference hr, List.length_cons, List.length_cons]
          omega
  | other hc _ ih =>
      rw [holdsPlus_cons_of_ne hc, unescapeList_cons_of_ne hc, List.cons_inj_right, List.length_cons,
        List.length_cons, Nat.succ_lt_succ_iff]
      exact ih

theorem not_decoded_of_holdsPlus (hs : HoldsPlus s) : ¬ Decoded false s (unescapeList s) := by
  intro h
  exact Nat.lt_irrefl _ (h.compare.2 hs)

theorem toList_unescape (text : String) : (unescape text).toList = unescapeList text.toList :=
  String.toList_ofList

/-- **What is decoded.** The decoder follows the grammar of references in which a number may have a plus sign, on
    every text. It follows the grammar without plus signs exactly on the texts in which no reference with a plus
    sign occurs. -/
theorem unescape_by_grammar (text : String) :
    (∀ out, Decoded true text.toList out ↔ out = (unescape text).toList) ∧
      ((∀ out, Decoded false text.toList out ↔ out = (unescape text).toList) ↔ ¬ HoldsPlus text.toList) := by
  rw [toList_unescape]
  refine ⟨fun _ => decoded_iff, ?_⟩
  constructor
  · intro h holds
    exact not_decoded_of_holdsPlus holds ((h _).mpr rfl)
  · intro holds out
    constructor
    · intro h
      exact h.compare.1 holds
    · rintro rfl
      exact (decoded_iff.mpr rfl).strict holds

/-- A reference with a plus sign is decoded, where the grammar without plus signs copies it. -/
theorem plus_sign_decoded :
    Decoded false "&#+65;".toList "&#+65;".toList ∧ (unescape "&#+65;").toList = "A".toList ∧
      ¬ Decoded false "&#+65;".toList (unescape "&#+65;").toList := by
  have written : IsReference true "&#+65;".toList 'A' :=
    ⟨"#+65".toList, rfl, character?_eq_some_iff.mp (by decide +kernel), by decide +kernel⟩
  have copied : Decoded false "#+65;".toList "#+65;".toList := by
    refine .other (by decide) (.other (by decide) (.other (by decide) (.other (by decide) (.other (by decide) .nil))))
  refine ⟨.ampersand ?_ copied, by decide +kernel, ?_⟩
  · intro w c hw hr
    obtain ⟨hr, hplus⟩ := IsReference.strict_iff.mp hr
    rw [hr.unique written hw List.prefix_rfl] at hplus
    exact hplus (by decide)
  · rw [toList_unescape]
    exact not_decoded_of_holdsPlus ⟨_, _, List.infix_rfl, written, by decide⟩

/-! ## What was escaped -/

theorem isReference_of_mem (name : String) (h : (name, c.toNat) ∈ namedCharacters)
    (short : byteSize name.toList ≤ 11) : IsReference plus ('&' :: (name.toList ++ [';'])) c :=
  ⟨name.toList, rfl, .named h, by rw [byteSize_reference]; omega⟩

/-- What is written for a character is decoded to it, whatever comes behind. -/
theorem unescapeList_escapeChar (c : Char) : unescapeList (escapeChar c ++ s) = c :: unescapeList s := by
  unfold escapeChar
  by_cases hamp : c = '&'
  · subst hamp
    exact (isReference_of_mem "amp" (by decide) (by decide)).unescapeList
  · rw [if_neg hamp]
    by_cases hlt : c = '<'
    · subst hlt
      exact (isReference_of_mem "lt" (by decide) (by decide)).unescapeList
    · rw [if_neg hlt]
      by_cases hgt : c = '>'
      · subst hgt
        exact (isReference_of_mem "gt" (by decide) (by decide)).unescapeList
      · rw [if_neg hgt]
        exact unescapeList_cons_of_ne hamp

theorem unescapeList_escaped : unescapeList (s.flatMap escapeChar ++ t) = s ++ unescapeList t := by
  induction s with
  | nil => rfl
  | cons c r ih => rw [List.flatMap_cons, List.append_assoc, unescapeList_escapeChar, ih, List.cons_append]

/-- **Decoding gives back what was escaped**, whatever it looks like: a text in which every ampersand and every
    angle bracket is written as a reference is shown as it was before. Nor does its end take part in a reference
    with what comes behind. -/
theorem unescape_escape (text : String) :
    unescape (escape text) = text ∧ ∀ more, unescape (escape text ++ more) = text ++ unescape more := by
  have behind (more : String) : unescape (escape text ++ more) = text ++ unescape more := by
    rw [← String.toList_inj, toList_unescape, String.toList_append, String.toList_append, toList_unescape, escape,
      String.toList_ofList, unescapeList_escaped]
  refine ⟨?_, behind⟩
  have nothing : unescape "" = "" := by decide +kernel
  have alone := behind ""
  rw [String.append_empty, nothing, String.append_empty] at alone
  exact alone

end TeamChat.Body
