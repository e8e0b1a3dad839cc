import TeamChat.Remote.Form
import Mathlib.Tactic.SplitIfs

/-!
# `Form.bytes`: the order of bytes

Texts are compared character by character. Their bytes come in the same order: of two different characters
the one with the smaller number is written with the smaller bytes, and neither is the beginning of the
other.

## Contents
- `encode_lt_encode`: the bytes of two characters differ in the order of the characters.
- `bytes_le_bytes_iff`: texts and their bytes come in the same order.
-/

namespace TeamChat.Remote.Form

variable {a b : String} {c d : Char}

/-- The number of a character is in range. -/
theorem toNat_val_lt (h : c < d) : c.val.toNat < d.val.toNat ∧ d.val.toNat < 0x110000 := by
  rw [Char.lt_def, UInt32.lt_iff_toNat_lt] at h
  refine ⟨h, ?_⟩
  rcases d.valid with hd | hd
  · have hd : d.val.toNat < 0xd800 := hd
    omega
  · exact hd.2

/-- The bytes of two characters differ in the order of the characters, whatever comes behind them. -/
theorem encode_lt_encode (h : c < d) (s t : List UInt8) :
    String.utf8EncodeChar c ++ s < String.utf8EncodeChar d ++ t := by
  obtain ⟨hlt, hd⟩ := toNat_val_lt h
  unfold String.utf8EncodeChar
  generalize c.val.toNat = m at hlt
  generalize d.val.toNat = n at hlt hd
  simp only []
  -- one case for each pair of lengths; the first byte is larger if there are more
  split_ifs <;>
    simp only [List.cons_append, List.nil_append, List.cons_lt_cons_iff, UInt8.lt_iff_toNat_lt,
      ← UInt8.toNat_inj, UInt8.toNat_ofNat'] <;>
    simp (disch := omega) only [Nat.mod_eq_of_lt] <;>
    omega

theorem bytes_lt_bytes (h : a < b) : bytes a < bytes b := by
  have h : List.Lex (· < ·) a.toList b.toList := h
  unfold bytes
  generalize a.toList = s at h
  generalize b.toList = t at h
  induction h with
  | @nil d t =>
      rw [List.flatMap_nil, List.flatMap_cons]
      cases he : String.utf8EncodeChar d with
      | nil => exact absurd he String.utf8EncodeChar_ne_nil
      | cons x rest => exact List.nil_lt_cons x _
  | cons _ ih =>
      rw [List.flatMap_cons, List.flatMap_cons]
      exact List.append_left_lt ih
  | rel hc =>
      rw [List.flatMap_cons, List.flatMap_cons]
      exact encode_lt_encode hc _ _

/-- **Texts and their bytes come in the same order.** -/
theorem bytes_le_bytes_iff : bytes a ≤ bytes b ↔ a ≤ b := by
  constructor
  · intro h
    rw [← String.not_lt]
    intro hlt
    exact h (bytes_lt_bytes hlt)
  · intro h
    by_cases hlt : a < b
    · exact List.le_of_lt (bytes_lt_bytes hlt)
    · rw [String.le_antisymm h (String.not_lt.mp hlt)]
      exact List.le_refl _

end TeamChat.Remote.Form
