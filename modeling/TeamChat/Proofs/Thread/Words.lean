import TeamChat.Proofs.Slash.Grammar
import TeamChat.Proofs.Text.Numerals
import TeamChat.Thread

/-!
# `Thread.word`: words read back

The characters of a word are the digits of its number, each by its place in the alphabet. No character stands there
twice, so a word is read back as its number, and different numbers have different words. The words of numbers are the
`Canonical` ones: characters of the alphabet, at least one, and no digit zero in front of others. Of these each is the
word of its number, so that words and numbers correspond (`word_bijective`). All characters of the alphabet are word
characters, so `/thread` takes an alias as it is.

## Contents
- `Thread.idxOf_symbol`, `symbol_idxOf`, `isWordChar_of_mem`: the characters of digits and their places.
- `Thread.number`, `number_word`, `word_inj`: a word is read back as its number.
- `Thread.Canonical`, `canonical_word`, `word_number`: the words of numbers.
- `Thread.length_word_le`, `head?_word`: how long a word is, and how it starts.
- `Thread.parse_reply`: the alias in a reply.
- `Thread.word_bijective`: words and numbers correspond.
-/

namespace TeamChat.Thread

variable {n : Nat} {w : String}

/-! ## The alphabet -/

theorem length_alphabet : alphabet.length = 62 := by
  decide +kernel

theorem idxOf_lt {c : Char} (h : c ∈ alphabet) : alphabet.idxOf c < 62 := by
  rw [← length_alphabet]
  exact List.idxOf_lt_length_of_mem h

theorem idxOf_symbol {d : Nat} (h : d < 62) : alphabet.idxOf (symbol d) = d := by
  have all : ∀ e : Fin 62, alphabet.idxOf (symbol e.val) = e.val := by decide +kernel
  exact all ⟨d, h⟩

theorem symbol_mem {d : Nat} (h : d < 62) : symbol d ∈ alphabet := by
  have hlength : d < alphabet.length := length_alphabet ▸ h
  rw [symbol, List.getD_eq_getElem?_getD, List.getElem?_eq_getElem hlength, Option.getD_some]
  exact List.getElem_mem hlength

theorem symbol_idxOf {c : Char} (h : c ∈ alphabet) : symbol (alphabet.idxOf c) = c := by
  have hlength := List.idxOf_lt_length_of_mem h
  rw [symbol, List.getD_eq_getElem?_getD, List.getElem?_eq_getElem hlength, Option.getD_some, List.getElem_idxOf]

theorem symbol_zero : symbol 0 = 'a' := by
  decide

theorem idxOf_zero : alphabet.idxOf 'a' = 0 := by
  rw [← symbol_zero]
  exact idxOf_symbol (by decide)

/-- Every character of the alphabet is a word character. -/
theorem isWordChar_of_mem {c : Char} (h : c ∈ alphabet) : Text.isWordChar c = true := by
  have all : alphabet.all Char.isAlphanum = true := by decide +kernel
  exact Text.isWordChar_of_isAlphanum (List.all_eq_true.mp all c h)

/-! ## Words read back -/

/-- The number that a word stands for: each character is the digit of its place in the alphabet, the first one the
    most significant. -/
def number (w : String) : Nat :=
  Numeral.value 62 (w.toList.map alphabet.idxOf)

/-- **A word is read back as its number.** -/
theorem number_word (n : Nat) : number (word n) = n := by
  have places : ((Numeral.digits 62 n).map symbol).map alphabet.idxOf = Numeral.digits 62 n := by
    rw [List.map_map]
    refine (List.map_congr_left ?_).trans (List.map_id _)
    intro d hd
    exact idxOf_symbol (Numeral.digits_lt (by decide) hd)
  rw [number, word, String.toList_ofList, places, Numeral.value_digits]

theorem word_inj {m n : Nat} : word m = word n ↔ m = n := by
  constructor
  · intro h
    rw [← number_word m, h, number_word]
  · exact congrArg word

/-! ## Canonical words -/

/-- A word in which numbers are written: characters of the alphabet, at least one, and the first of them is the digit
    zero only if there is no other. -/
structure Canonical (w : String) : Prop where
  ne_empty : w ≠ ""
  mem_alphabet : ∀ c ∈ w.toList, c ∈ alphabet
  front : ∀ r, w.toList = 'a' :: r → r = []

theorem canonical_word (n : Nat) : Canonical (word n) where
  ne_empty := word_ne_empty n
  mem_alphabet c hc := by
    rw [word, String.toList_ofList] at hc
    obtain ⟨d, hd, rfl⟩ := List.mem_map.mp hc
    exact symbol_mem (Numeral.digits_lt (by decide) hd)
  front r hr := by
    rw [word, String.toList_ofList] at hr
    obtain ⟨d, ds, hdigits, hd, rfl⟩ := List.map_eq_cons_iff.mp hr
    have hzero : d = 0 := by
      have hlt : d < 62 := Numeral.digits_lt (n := n) (by decide) (hdigits ▸ List.mem_cons_self)
      rw [← idxOf_symbol hlt, hd, idxOf_zero]
    rw [hzero] at hdigits
    rw [Numeral.digits_eq_zero_cons hdigits, List.map_nil]

/-- **A canonical word is the word of its number.** -/
theorem word_number (h : Canonical w) : word (number w) = w := by
  have hdigits : Numeral.digits 62 (number w) = w.toList.map alphabet.idxOf := by
    refine Numeral.digits_value (by decide) ?_ ?_ ?_
    · intro hnil
      exact h.ne_empty (String.toList_eq_nil_iff.mp (List.map_eq_nil_iff.mp hnil))
    · intro d hd
      obtain ⟨c, hc, rfl⟩ := List.mem_map.mp hd
      exact idxOf_lt (h.mem_alphabet c hc)
    · intro r hr
      obtain ⟨c, cs, hw, hc, rfl⟩ := List.map_eq_cons_iff.mp hr
      have hfirst : c = 'a' := by
        rw [← symbol_idxOf (h.mem_alphabet c (hw ▸ List.mem_cons_self)), hc, symbol_zero]
      rw [hfirst] at hw
      rw [h.front cs hw, List.map_nil]
  have hsymbols : (w.toList.map alphabet.idxOf).map symbol = w.toList := by
    rw [List.map_map]
    refine (List.map_congr_left ?_).trans (List.map_id _)
    intro c hc
    exact symbol_idxOf (h.mem_alphabet c hc)
  rw [word, hdigits, hsymbols, String.ofList_toList]

/-- Eleven characters are enough for 64 bits. -/
theorem length_word_le (h : n < UInt64.size) : (word n).length ≤ 11 := by
  have hbound : n < Nat.pow 62 11 := Nat.lt_trans h (by decide)
  rw [word, String.length_ofList, List.length_map]
  exact Numeral.length_digits_le (by decide) (by decide) hbound

/-- A word starts with the digit zero only if it is the word of zero. -/
theorem head?_word : (word n).toList.head? = some 'a' ↔ n = 0 := by
  constructor
  · intro h
    obtain ⟨r, hr⟩ := List.head?_eq_some_iff.mp h
    rw [(canonical_word n).front r hr] at hr
    rw [← number_word n, number, hr, List.map_singleton, idxOf_zero]
    rfl
  · rintro rfl
    rw [word, String.toList_ofList, Numeral.digits_of_lt (by decide), List.map_singleton, symbol_zero]
    rfl

/-! ## Aliases in replies -/

/-- **An alias is taken as it is**: what is typed behind it is a reply in its thread. -/
theorem parse_reply (stamp : String) {text : String} (hne : text ≠ "") (hline : '\n' ∉ text.toList)
    (hbegins : ∀ c ∈ text.toList.head?, Text.isBlank c = false)
    (hends : ∀ c ∈ text.toList.getLast?, Text.isBlank c = false) :
    Slash.parse ("/thread " ++ aliasOf stamp ++ " " ++ text) = .ok (.thread (aliasOf stamp) text) := by
  have hcanonical : Canonical (aliasOf stamp) := canonical_word _
  refine Slash.parse_eq_thread_iff.mpr ⟨[' '], [' '], [], ?_⟩
  exact
    { chars := by simp
      gap_ne_nil := by simp
      gap_blank := List.forall_mem_singleton.mpr (by decide)
      word_ne_nil := fun h => hcanonical.ne_empty (String.toList_eq_nil_iff.mp h)
      word := fun c hc => isWordChar_of_mem (hcanonical.mem_alphabet c hc)
      gap'_ne_nil := by simp
      gap'_blank := List.forall_mem_singleton.mpr (by decide)
      text_ne_nil := fun h => hne (String.toList_eq_nil_iff.mp h)
      begins := hbegins
      ends := hends
      one_line := by simpa using hline
      tail_blank := by simp }

/-! ## Words and numbers -/

/-- **Words and numbers of 64 bits correspond.** A number is read back from its word, which is canonical, has eleven
    characters at most, and starts with `a` for zero only; and a canonical word that stands for such a number is the
    word of it. So two threads share their alias only if they are of one second, and `/thread` takes every alias as
    it is. -/
theorem word_bijective :
    (∀ n < UInt64.size, number (word n) = n ∧ Canonical (word n) ∧ (word n).length ≤ 11 ∧
        ((word n).toList.head? = some 'a' ↔ n = 0)) ∧
      (∀ w, Canonical w → number w < UInt64.size → word (number w) = w) ∧
      (∀ s t, aliasOf s = aliasOf t ↔ Stamp.seconds s = Stamp.seconds t) ∧
      ∀ stamp text : String, text ≠ "" → '\n' ∉ text.toList → (∀ c ∈ text.toList.head?, Text.isBlank c = false) →
        (∀ c ∈ text.toList.getLast?, Text.isBlank c = false) →
        Slash.parse ("/thread " ++ aliasOf stamp ++ " " ++ text) = .ok (.thread (aliasOf stamp) text) := by
  refine ⟨fun n hn => ?_, fun w hw _ => word_number hw, fun s t => word_inj, fun stamp text => parse_reply stamp⟩
  exact ⟨number_word n, canonical_word n, length_word_le hn, head?_word⟩

/-- The greatest number of 64 bits takes eleven characters. -/
theorem word_bijective_greatest :
    (UInt64.size - 1 < UInt64.size ∧ number (word (UInt64.size - 1)) = UInt64.size - 1 ∧
        (word (UInt64.size - 1)).length ≤ 11) ∧
      (Canonical "v9QrKbgkrIp" ∧ number "v9QrKbgkrIp" < UInt64.size ∧ word (UInt64.size - 1) = "v9QrKbgkrIp") ∧
      Slash.parse "/thread bM see above" = .ok (.thread "bM" "see above") := by
  obtain ⟨hnumbers, hwords, _, hreply⟩ := word_bijective
  have hgreatest : UInt64.size - 1 < UInt64.size := by decide
  obtain ⟨hback, _, hlength, _⟩ := hnumbers (UInt64.size - 1) hgreatest
  have hletters : ∀ c ∈ "v9QrKbgkrIp".toList, alphabet.contains c = true := List.all_eq_true.mp (by decide)
  have hcanonical : Canonical "v9QrKbgkrIp" :=
    { ne_empty := by decide
      mem_alphabet := fun c hc => List.contains_iff_mem.mp (hletters c hc)
      front := fun r hr => absurd hr (by simp) }
  have hnumber : number "v9QrKbgkrIp" = UInt64.size - 1 := by decide +kernel
  have hsmall : number "v9QrKbgkrIp" < UInt64.size := by rw [hnumber]; exact hgreatest
  have hword := hwords "v9QrKbgkrIp" hcanonical hsmall
  rw [hnumber] at hword
  have halias : aliasOf "100.000100" = "bM" := by decide +kernel
  have hbegins : ∀ c ∈ "see above".toList.head?, Text.isBlank c = false := by
    intro c hc
    obtain rfl : 's' = c := Option.some.inj hc
    decide
  have hends : ∀ c ∈ "see above".toList.getLast?, Text.isBlank c = false := by
    intro c hc
    obtain rfl : 'e' = c := Option.some.inj hc
    decide
  have hparse := hreply "100.000100" "see above" (by decide) (by decide) hbegins hends
  rw [halias] at hparse
  exact ⟨⟨hgreatest, hback, hlength⟩, ⟨hcanonical, hsmall, hword⟩, hparse⟩

end TeamChat.Thread
