import TeamChat.Proofs.Text.Numerals
import TeamChat.Remote.Form

/-!
# `Form.encode`: forms read back

A key or a value is written without the characters that separate keys from values and pairs from one
another, so a written form falls apart into what it was put together from. Byte by byte it is read back as
it was, and so is the form (`decode?_encode`): whatever stands in a value, it is a part of that value.

## Contents
- `decodeBytes_encodeByte`, `decodeText?_encodeText`: one byte, and one key or value.
- `no_separator`: what a written key or value does not hold.
- `decodeField?_encodeField`: one pair.
- `decode?_encode`, `encode_inj`: a form.
-/

namespace TeamChat.Remote.Form

open Numeral (digitValue?)

/-! ## One byte -/

/-- A byte that stands for itself is written as the character that has it as its only byte. -/
theorem encodeChar_of_isPlain {b : UInt8} (h : isPlain b = true) :
    String.utf8EncodeChar (Char.ofNat b.toNat) = [b] ∧ Char.ofNat b.toNat ≠ '+' ∧ Char.ofNat b.toNat ≠ '%' := by
  have all : ∀ n : Fin 256, isPlain (UInt8.ofNat n.val) = true →
      String.utf8EncodeChar (Char.ofNat n.val) = [UInt8.ofNat n.val] ∧
        Char.ofNat n.val ≠ '+' ∧ Char.ofNat n.val ≠ '%' := by
    decide +kernel
  have hb := all ⟨b.toNat, b.toNat_lt⟩
  rw [UInt8.ofNat_toNat] at hb
  exact hb h

theorem digitValue?_hexDigit {n : Nat} (h : n < 16) : digitValue? 16 (hexDigit n) = some n := by
  have all : ∀ m : Fin 16, digitValue? 16 (hexDigit m.val) = some m.val := by decide
  exact all ⟨n, h⟩

/-- A written byte is read back, whatever stands behind it. -/
theorem decodeBytes_encodeByte (b : UInt8) (s : List Char) :
    decodeBytes (encodeByte b ++ s) = b :: decodeBytes s := by
  unfold encodeByte
  by_cases hp : isPlain b = true
  · obtain ⟨hc, hplus, hpercent⟩ := encodeChar_of_isPlain hp
    rw [if_pos hp, List.singleton_append, decodeBytes, hc, List.singleton_append]
    · exact hplus
    · intro _ _ _ he
      exact absurd he hpercent
  · rw [if_neg hp]
    by_cases hs : b = 32
    · rw [if_pos hs, hs]
      rfl
    · have hb : b.toNat < 256 := b.toNat_lt
      rw [if_neg hs]
      simp only [List.cons_append, List.nil_append, decodeBytes]
      rw [digitValue?_hexDigit (by omega), digitValue?_hexDigit (by omega)]
      simp only []
      rw [Nat.mul_comm, Nat.div_add_mod, UInt8.ofNat_toNat]

/-- No character that separates something is used to write a byte. -/
theorem not_mem_encodeByte (b : UInt8) : '&' ∉ encodeByte b ∧ '=' ∉ encodeByte b := by
  have all : ∀ n : Fin 256, '&' ∉ encodeByte (UInt8.ofNat n.val) ∧ '=' ∉ encodeByte (UInt8.ofNat n.val) := by
    decide +kernel
  have hb := all ⟨b.toNat, b.toNat_lt⟩
  rwa [UInt8.ofNat_toNat] at hb

/-! ## One key or value -/

theorem decodeBytes_flatMap (bs : List UInt8) : decodeBytes (bs.flatMap encodeByte) = bs := by
  induction bs with
  | nil => rfl
  | cons b rest ih => rw [List.flatMap_cons, decodeBytes_encodeByte, ih]

/-- The bytes of a text are those of the text. -/
theorem fromUTF8?_bytes (s : String) : String.fromUTF8? (bytes s).toByteArray = some s := by
  have hb : (bytes s).toByteArray = s.toByteArray := String.utf8Encode_toList
  rw [hb]
  unfold String.fromUTF8?
  rw [dif_pos s.isValidUTF8]
  rfl

/-- **A written key or value is read back.** -/
theorem decodeText?_encodeText (s : String) : decodeText? (encodeText s) = some s := by
  unfold decodeText? encodeText
  rw [decodeBytes_flatMap, fromUTF8?_bytes]

/-- A written key or value holds no separator. -/
theorem no_separator {s : String} {c : Char} (h : c ∈ encodeText s) : c ≠ '&' ∧ c ≠ '=' := by
  obtain ⟨b, _, hc⟩ := List.mem_flatMap.mp h
  obtain ⟨hamp, heq⟩ := not_mem_encodeByte b
  constructor
  · rintro rfl
    exact hamp hc
  · rintro rfl
    exact heq hc

/-! ## One pair -/

theorem decodeField?_encodeField (f : String × String) : decodeField? (encodeField f) = some f := by
  have key : ∀ c ∈ encodeText f.1, decide (c ≠ '=') = true := fun c hc => decide_eq_true (no_separator hc).2
  have before : (encodeField f).takeWhile (fun c => decide (c ≠ '=')) = encodeText f.1 := by
    rw [encodeField, List.takeWhile_append_of_pos key, List.takeWhile_cons_of_neg (by decide), List.append_nil]
  have behind : (encodeField f).dropWhile (fun c => decide (c ≠ '=')) = '=' :: encodeText f.2 := by
    rw [encodeField, List.dropWhile_append_of_pos key, List.dropWhile_cons_of_neg (by decide)]
  unfold decodeField?
  rw [before, behind, List.tail_cons, decodeText?_encodeText, decodeText?_encodeText]
  rfl

/-- A written pair holds no separator of pairs, and it is not empty. -/
theorem encodeField_undivided (f : String × String) : '&' ∉ encodeField f ∧ encodeField f ≠ [] := by
  constructor
  · intro h
    rcases List.mem_append.mp h with hk | hv
    · exact (no_separator hk).1 rfl
    · rcases List.mem_cons.mp hv with he | hv
      · exact absurd he (by decide)
      · exact (no_separator hv).1 rfl
  · exact List.append_ne_nil_of_right_ne_nil _ (List.cons_ne_nil _ _)

/-! ## Forms -/

theorem mapM_decodeField? (fields : List (String × String)) :
    (fields.map encodeField).mapM decodeField? = some fields := by
  induction fields with
  | nil => rfl
  | cons f rest ih =>
      rw [List.map_cons, List.mapM_cons, decodeField?_encodeField, ih]
      rfl

/-- **A written form is read back**: the same keys with the same values, in the same order. -/
theorem decode?_encode (fields : List (String × String)) : decode? (encode fields) = some fields := by
  unfold decode? encode
  rw [String.toList_ofList]
  cases fields with
  | nil => rfl
  | cons f rest =>
      have undivided : ∀ part ∈ (f :: rest).map encodeField, '&' ∉ part := by
        intro part hpart
        obtain ⟨g, _, rfl⟩ := List.mem_map.mp hpart
        exact (encodeField_undivided g).1
      have kept : ((f :: rest).map encodeField).filter (fun part => !part.isEmpty) = (f :: rest).map encodeField := by
        rw [List.filter_eq_self]
        intro part hpart
        obtain ⟨g, _, rfl⟩ := List.mem_map.mp hpart
        simpa using (encodeField_undivided g).2
      rw [List.splitOn_intercalate '&' undivided (by simp), kept, mapM_decodeField?]

/-- Forms that are written alike are alike. -/
theorem encode_inj {fields others : List (String × String)} (h : encode fields = encode others) :
    fields = others := by
  have read := congrArg decode? h
  rw [decode?_encode, decode?_encode] at read
  exact Option.some.inj read

end TeamChat.Remote.Form
