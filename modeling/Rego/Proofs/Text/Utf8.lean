import Rego.Text.Utf8

/-!
# The bytes of characters

The bytes of a text are those of its characters in turn (`bytes_ofList`), and they decode to the
text (`ofBytes?_bytes`). A character below `0x80` is one byte, which reads back as the character;
any other character is made of bytes from `0x80` on, which no character below that shares.
-/

namespace Rego.Text

set_option autoImplicit false

/-- The UTF-8 bytes of characters. -/
def utf8 (characters : List Char) : List UInt8 := characters.flatMap String.utf8EncodeChar

theorem utf8_cons (character : Char) (rest : List Char) :
    utf8 (character :: rest) = String.utf8EncodeChar character ++ utf8 rest := rfl

theorem utf8_append (front back : List Char) : utf8 (front ++ back) = utf8 front ++ utf8 back :=
  List.flatMap_append

theorem bytes_ofList (characters : List Char) :
    bytes (String.ofList characters) = utf8 characters := by
  unfold bytes
  rw [String.toUTF8_eq_toByteArray, String.toByteArray_ofList, List.utf8Encode,
    List.toList_data_toByteArray]
  rfl

theorem bytes_eq_utf8 (text : String) : bytes text = utf8 text.toList := by
  rw [← bytes_ofList, String.ofList_toList]

/-- Nothing is lost in the bytes of a text. -/
theorem ofBytes?_bytes (text : String) : ofBytes? (bytes text) = some text := by
  have whole : ByteArray.mk (bytes text).toArray = text.toByteArray := by simp [bytes]
  have valid : text.toByteArray.IsValidUTF8 := text.isValidUTF8
  unfold ofBytes? String.fromUTF8?
  simp only [whole]
  rw [dif_pos valid]
  rfl

/-! ## One character -/

theorem toNat_ofUInt8 (byte : UInt8) : (Char.ofUInt8 byte).toNat = byte.toNat := rfl

/-- A character below `0x80` is one byte. -/
theorem utf8EncodeChar_of_lt {character : Char} (ascii : character.toNat < 0x80) :
    String.utf8EncodeChar character = [UInt8.ofNat character.toNat] := by
  have small : character.val.toNat ≤ 0x7f := Nat.le_of_lt_succ ascii
  unfold String.utf8EncodeChar
  rw [if_pos small]
  rfl

/-- The byte of a character below `0x80` reads back as the character. -/
theorem ofUInt8_ofNat {character : Char} (ascii : character.toNat < 0x80) :
    Char.ofUInt8 (UInt8.ofNat character.toNat) = character := by
  refine Char.toNat_inj.mp ?_
  rw [toNat_ofUInt8, UInt8.toNat_ofNat']
  omega

/-- A character from `0x80` on is made of bytes from `0x80` on. -/
theorem le_of_mem_utf8EncodeChar {character : Char} (wide : 0x80 ≤ character.toNat) :
    ∀ byte ∈ String.utf8EncodeChar character, 0x80 ≤ byte.toNat := by
  have large : ¬character.val.toNat ≤ 0x7f := Nat.not_le_of_lt wide
  have digit : ∀ value mark : Nat, 0x80 ≤ mark → ∀ width : Nat, 0 < width → mark + width ≤ 256 →
      0x80 ≤ (UInt8.ofNat (value % width + mark)).toNat := by
    intro value mark least width positive bounded
    have below := Nat.mod_lt value positive
    rw [UInt8.toNat_ofNat']
    omega
  intro byte member
  unfold String.utf8EncodeChar at member
  simp only [if_neg large] at member
  split at member
  · simp only [List.mem_cons, List.not_mem_nil, or_false] at member
    rcases member with rfl | rfl <;> exact digit _ _ (by decide) _ (by decide) (by decide)
  · split at member
    · simp only [List.mem_cons, List.not_mem_nil, or_false] at member
      rcases member with rfl | rfl | rfl <;> exact digit _ _ (by decide) _ (by decide) (by decide)
    · simp only [List.mem_cons, List.not_mem_nil, or_false] at member
      rcases member with rfl | rfl | rfl | rfl <;>
        exact digit _ _ (by decide) _ (by decide) (by decide)

/-- Characters below `0x80` are one byte each. -/
theorem utf8_of_ascii {characters : List Char}
    (ascii : ∀ character ∈ characters, character.toNat < 0x80) :
    utf8 characters = characters.map fun character => UInt8.ofNat character.toNat := by
  induction characters with
  | nil => rfl
  | cons character rest ih =>
      obtain ⟨here, later⟩ := List.forall_mem_cons.mp ascii
      rw [utf8_cons, utf8EncodeChar_of_lt here, ih later]
      rfl

end Rego.Text
