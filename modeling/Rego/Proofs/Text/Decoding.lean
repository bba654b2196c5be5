import Rego.Proofs.Text.Utf8

/-!
# Reading the bytes of characters

Decoding takes any bytes, and what it cannot read it replaces. It replaces nothing in the bytes of a
text: a sequence that starts with one of the leading bytes and goes on as it must is one character
(`decode_one` to `decode_four`), the bytes of a character are such a sequence
(`decode_utf8EncodeChar`), and so a text is what its bytes decode to (`ofBytes_bytes`).
-/

namespace Rego.Text

set_option autoImplicit false

/-! ## One sequence -/

section Sequences

variable {first second third fourth : UInt8}

theorem decode_one (lead : first < 0x80) (rest : List UInt8) :
    decode (first :: rest) = Char.ofNat first.toNat :: decode rest := by
  rw [decode.eq_def]
  exact if_pos lead

theorem decode_two (least : 0xC2 ≤ first) (most : first < 0xE0)
    (continued : continues second = true) (rest : List UInt8) :
    decode (first :: second :: rest) =
      Char.ofNat (first.toNat % 32 * 64 + lowBits second) :: decode rest := by
  rw [decode.eq_def]
  dsimp only
  rw [if_neg (UInt8.not_lt.mpr (UInt8.le_trans (by decide) least)), if_neg (UInt8.not_lt.mpr least),
    if_pos most]
  exact if_pos continued

theorem decode_three (least : 0xE0 ≤ first) (most : first < 0xF0)
    (continued : continuesThree first second = true) (ended : continues third = true)
    (rest : List UInt8) :
    decode (first :: second :: third :: rest) =
      Char.ofNat ((first.toNat % 16 * 64 + lowBits second) * 64 + lowBits third) ::
        decode rest := by
  rw [decode.eq_def]
  dsimp only
  rw [if_neg (UInt8.not_lt.mpr (UInt8.le_trans (by decide) least)),
    if_neg (UInt8.not_lt.mpr (UInt8.le_trans (by decide) least)),
    if_neg (UInt8.not_lt.mpr least), if_pos most]
  exact (if_pos continued).trans (if_pos ended)

theorem decode_four (least : 0xF0 ≤ first) (most : first < 0xF5)
    (continued : continuesFour first second = true) (further : continues third = true)
    (ended : continues fourth = true) (rest : List UInt8) :
    decode (first :: second :: third :: fourth :: rest) =
      Char.ofNat (((first.toNat % 8 * 64 + lowBits second) * 64 + lowBits third) * 64 +
        lowBits fourth) :: decode rest := by
  rw [decode.eq_def]
  dsimp only
  rw [if_neg (UInt8.not_lt.mpr (UInt8.le_trans (by decide) least)),
    if_neg (UInt8.not_lt.mpr (UInt8.le_trans (by decide) least)),
    if_neg (UInt8.not_lt.mpr (UInt8.le_trans (by decide) least)),
    if_neg (UInt8.not_lt.mpr least), if_pos most]
  exact (if_pos continued).trans ((if_pos further).trans (if_pos ended))

end Sequences

/-! ## One character -/

theorem ofNat_lt_ofNat {value bound : Nat} (less : value < bound) (small : bound < 256) :
    UInt8.ofNat value < UInt8.ofNat bound := by
  rw [UInt8.lt_iff_toNat_lt, UInt8.toNat_ofNat', UInt8.toNat_ofNat']
  omega

theorem ofNat_le_ofNat {value bound : Nat} (most : value ≤ bound) (small : bound < 256) :
    UInt8.ofNat value ≤ UInt8.ofNat bound := by
  rw [UInt8.le_iff_toNat_le, UInt8.toNat_ofNat', UInt8.toNat_ofNat']
  omega

theorem toNat_ofNat_of_lt {value : Nat} (small : value < 256) : (UInt8.ofNat value).toNat = value :=
  UInt8.toNat_ofNat_of_lt small

theorem within_ofNat {value : Nat} (low high : Nat) (bounded : high < 256) (least : low ≤ value)
    (most : value ≤ high) :
    (decide (UInt8.ofNat low ≤ UInt8.ofNat value) &&
      decide (UInt8.ofNat value ≤ UInt8.ofNat high)) = true := by
  rw [Bool.and_eq_true, decide_eq_true_iff, decide_eq_true_iff]
  exact ⟨ofNat_le_ofNat least (by omega), ofNat_le_ofNat most bounded⟩

/-- The byte that goes on with six bits of a code point. -/
theorem continues_low (bits : Nat) :
    continues (UInt8.ofNat (bits % 64 + 128)) = true ∧
      lowBits (UInt8.ofNat (bits % 64 + 128)) = bits % 64 := by
  have range := Nat.mod_lt bits (show 0 < 64 by decide)
  have value : (UInt8.ofNat (bits % 64 + 128)).toNat = bits % 64 + 128 :=
    toNat_ofNat_of_lt (by omega)
  constructor
  · exact within_ofNat 0x80 0xBF (by decide) (Nat.le_add_left _ _) (by omega)
  · rw [lowBits, value]
    omega

section Codes

variable {code : Nat}

theorem decode_code_one (most : code < 0x80) (rest : List UInt8) :
    decode (UInt8.ofNat code :: rest) = Char.ofNat code :: decode rest := by
  rw [decode_one (ofNat_lt_ofNat most (by decide)), toNat_ofNat_of_lt (by omega)]

theorem decode_code_two (least : 0x80 ≤ code) (most : code < 0x800) (rest : List UInt8) :
    decode (UInt8.ofNat (code / 64 % 32 + 192) :: UInt8.ofNat (code % 64 + 128) :: rest) =
      Char.ofNat code :: decode rest := by
  obtain ⟨continued, low⟩ := continues_low code
  rw [decode_two (ofNat_le_ofNat (by omega : 0xC2 ≤ _) (by omega))
    (ofNat_lt_ofNat (by omega : _ < 0xE0) (by decide)) continued, low,
    toNat_ofNat_of_lt (by omega)]
  congr 2
  omega

theorem decode_code_three (least : 0x800 ≤ code) (most : code < 0x10000)
    (valid : code < 0xD800 ∨ 0xDFFF < code) (rest : List UInt8) :
    decode (UInt8.ofNat (code / 4096 % 16 + 224) :: UInt8.ofNat (code / 64 % 64 + 128) ::
      UInt8.ofNat (code % 64 + 128) :: rest) = Char.ofNat code :: decode rest := by
  obtain ⟨ended, low⟩ := continues_low code
  obtain ⟨continued, middle⟩ := continues_low (code / 64)
  have second : continuesThree (UInt8.ofNat (code / 4096 % 16 + 224))
      (UInt8.ofNat (code / 64 % 64 + 128)) = true := by
    have lead := toNat_ofNat_of_lt (show code / 4096 % 16 + 224 < 256 by omega)
    unfold continuesThree
    split
    · next first =>
        have first : code / 4096 % 16 + 224 = 0xE0 := lead.symm.trans (congrArg UInt8.toNat first)
        exact within_ofNat 0xA0 0xBF (by decide) (by omega) (by omega)
    · split
      · next first =>
          have first : code / 4096 % 16 + 224 = 0xED := lead.symm.trans (congrArg UInt8.toNat first)
          exact within_ofNat 0x80 0x9F (by decide) (by omega) (by omega)
      · exact continued
  rw [decode_three (ofNat_le_ofNat (by omega : 0xE0 ≤ _) (by omega))
    (ofNat_lt_ofNat (by omega : _ < 0xF0) (by decide)) second ended, low, middle,
    toNat_ofNat_of_lt (by omega)]
  congr 2
  omega

theorem decode_code_four (least : 0x10000 ≤ code) (most : code < 0x110000) (rest : List UInt8) :
    decode (UInt8.ofNat (code / 262144 % 8 + 240) :: UInt8.ofNat (code / 4096 % 64 + 128) ::
      UInt8.ofNat (code / 64 % 64 + 128) :: UInt8.ofNat (code % 64 + 128) :: rest) =
        Char.ofNat code :: decode rest := by
  obtain ⟨ended, low⟩ := continues_low code
  obtain ⟨further, middle⟩ := continues_low (code / 64)
  obtain ⟨continued, high⟩ := continues_low (code / 4096)
  have second : continuesFour (UInt8.ofNat (code / 262144 % 8 + 240))
      (UInt8.ofNat (code / 4096 % 64 + 128)) = true := by
    have lead := toNat_ofNat_of_lt (show code / 262144 % 8 + 240 < 256 by omega)
    unfold continuesFour
    split
    · next first =>
        have first : code / 262144 % 8 + 240 = 0xF0 := lead.symm.trans (congrArg UInt8.toNat first)
        exact within_ofNat 0x90 0xBF (by decide) (by omega) (by omega)
    · split
      · next first =>
          have first : code / 262144 % 8 + 240 = 0xF4 :=
            lead.symm.trans (congrArg UInt8.toNat first)
          exact within_ofNat 0x80 0x8F (by decide) (by omega) (by omega)
      · exact continued
  rw [decode_four (ofNat_le_ofNat (by omega : 0xF0 ≤ _) (by omega))
    (ofNat_lt_ofNat (by omega : _ < 0xF5) (by decide)) second further ended, low, middle, high,
    toNat_ofNat_of_lt (by omega)]
  congr 2
  omega

end Codes

/-- **The bytes of a character are read as the character.** -/
theorem decode_utf8EncodeChar (character : Char) (rest : List UInt8) :
    decode (String.utf8EncodeChar character ++ rest) = character :: decode rest := by
  have valid : character.val.toNat < 0xD800 ∨
      0xDFFF < character.val.toNat ∧ character.val.toNat < 0x110000 := character.valid
  conv => rhs; rw [← Char.ofNat_toNat character]
  unfold String.utf8EncodeChar
  dsimp only
  split
  · exact decode_code_one (by omega) rest
  · split
    · exact decode_code_two (by omega) (by omega) rest
    · split
      · exact decode_code_three (by omega) (by omega) (by omega) rest
      · exact decode_code_four (by omega) (by omega) rest

theorem decode_utf8 (characters : List Char) : decode (utf8 characters) = characters := by
  induction characters with
  | nil => rfl
  | cons character rest ih => rw [utf8_cons, decode_utf8EncodeChar, ih]

/-- **Nothing is replaced in the bytes of a text.** -/
theorem ofBytes_bytes (text : String) : ofBytes (bytes text) = text := by
  rw [ofBytes, bytes_eq_utf8, decode_utf8, String.ofList_toList]

end Rego.Text
