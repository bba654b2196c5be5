import Rego.Encoding.Hex
import Rego.Proofs.Encoding.Symbols
import Rego.Proofs.Text.Case

/-!
# Reading hexadecimal text

A character that agrees with the symbol of a digit but for its case is read as that digit
(`digit?_of_recased`). So a text that agrees with the hexadecimal text of bytes but for its case is
read as those bytes (`decode_recased`).
-/

namespace Rego.Encoding.Hex

set_option autoImplicit false

theorem alphabet_hex : Alphabet alphabet 16 := by decide

/-- A character is read as the digit whose symbol it is, in either case. -/
theorem digit?_of_recased {digit : Nat} (below : digit < 16) {character : Char}
    (same : Text.lowerBasic character = Text.lowerBasic (symbolOf alphabet digit)) :
    character.toNat < 0x80 ∧ digit? (UInt8.ofNat character.toNat) = some digit := by
  have ascii := Text.toNat_lt_of_lowerBasic
    (alphabet_hex.ascii _ (alphabet_hex.symbolOf_mem below)) same
  have read : ∀ code < 0x80, ∀ digit < 16,
      Text.lowerBasic (Char.ofNat code) = Text.lowerBasic (symbolOf alphabet digit) →
        digit? (UInt8.ofNat code) = some digit := by
    decide +kernel
  exact ⟨ascii, read _ ascii digit below (by rwa [Char.ofNat_toNat])⟩

/-- Pairs of digits are read as the bytes that were written, in any letter case. -/
theorem decodePairs_recased {bytes : List UInt8} {recased : List Char}
    (same : Text.Recased recased (encode bytes)) (position : Nat) :
    (Text.utf8 recased).length = 2 * bytes.length ∧
      decodePairs position (Text.utf8 recased) = .ok bytes := by
  induction bytes generalizing recased position with
  | nil =>
      obtain rfl := List.eq_nil_of_length_eq_zero same.length_eq
      exact ⟨rfl, rfl⟩
  | cons byte rest ih =>
      obtain ⟨high, _, rfl, one, same⟩ := Text.Recased.exists_cons same
      obtain ⟨low, _, rfl, two, same⟩ := Text.Recased.exists_cons same
      have range := byte.toNat_lt
      obtain ⟨ascii, first⟩ := digit?_of_recased (by omega : byte.toNat / 16 < 16) one
      obtain ⟨ascii', second⟩ := digit?_of_recased (Nat.mod_lt _ (by decide)) two
      have whole : UInt8.ofNat (byte.toNat / 16 * 16 + byte.toNat % 16) = byte := by
        rw [Nat.div_add_mod' byte.toNat 16, UInt8.ofNat_toNat]
      obtain ⟨size, read⟩ := ih same (position + 2)
      rw [Text.utf8_cons, Text.utf8_cons, Text.utf8EncodeChar_of_lt ascii,
        Text.utf8EncodeChar_of_lt ascii', List.singleton_append, List.singleton_append]
      constructor
      · simp only [List.length_cons, size]
        omega
      · rw [decodePairs, first, second]
        dsimp only
        rw [read, whole]
        rfl

/-- **Hexadecimal text is read as the bytes that were written, in any letter case.** -/
theorem decode_recased {bytes : List UInt8} {recased : List Char}
    (same : Text.Recased recased (encode bytes)) :
    decode (Text.utf8 recased) = .ok bytes := by
  obtain ⟨size, read⟩ := decodePairs_recased same 0
  rw [decode, size, if_pos (Nat.mul_mod_right 2 _), read]

end Rego.Encoding.Hex
