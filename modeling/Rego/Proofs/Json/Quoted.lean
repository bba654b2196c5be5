import Rego.Proofs.Text.Utf8
import Rego.Json.Quoted

/-!
# String literals read back

What is written for a character is scanned into pieces that denote the bytes of the character
(`Writes`): a short escape gives the character itself, a numbered escape its code unit, and any
other character its bytes one by one. So the literal of a text is scanned up to its closing quote
and spells the text (`scan_encode`).
-/

namespace Rego.Quoted

set_option autoImplicit false

open Text

/-- Bytes are scanned into pieces in front of whatever follows, and the pieces denote the bytes of a
character. -/
def Writes (written : List UInt8) (character : Char) : Prop :=
  ∃ front, (∀ {input : List UInt8} {pieces : List Piece} {tail : List UInt8},
      scan input = some (pieces, tail) → scan (written ++ input) = some (front ++ pieces, tail)) ∧
    ∀ {rest : List Piece} {denoted : List UInt8}, bytes? rest = some denoted →
      bytes? (front ++ rest) = some (String.utf8EncodeChar character ++ denoted)

/-! ## Characters that stand for themselves -/

theorem scan_byte {byte : UInt8} (printable : 0x20 ≤ byte.toNat) (quote : byte.toNat ≠ 0x22)
    (backslash : byte.toNat ≠ 0x5c) (rest : List UInt8) :
    scan (byte :: rest) = (scan rest).map fun (pieces, tail) => (.byte byte :: pieces, tail) := by
  have quote' : Char.ofUInt8 byte ≠ '"' := fun same => quote (congrArg Char.toNat same)
  have backslash' : Char.ofUInt8 byte ≠ '\\' := fun same => backslash (congrArg Char.toNat same)
  have printable' : ¬byte < 0x20 := by
    rw [UInt8.lt_iff_toNat_lt]
    exact Nat.not_lt_of_le printable
  rw [scan.eq_def (byte :: rest)]
  simp only [if_neg printable']
  cases scan rest <;> rfl

theorem scan_bytes {plain : List UInt8}
    (all : ∀ byte ∈ plain, 0x20 ≤ byte.toNat ∧ byte.toNat ≠ 0x22 ∧ byte.toNat ≠ 0x5c)
    {input : List UInt8} {pieces : List Piece} {tail : List UInt8}
    (scanned : scan input = some (pieces, tail)) :
    scan (plain ++ input) = some (plain.map .byte ++ pieces, tail) := by
  induction plain with
  | nil => exact scanned
  | cons byte rest ih =>
      obtain ⟨⟨printable, quote, backslash⟩, later⟩ := List.forall_mem_cons.mp all
      rw [List.cons_append, scan_byte printable quote backslash, ih later]
      rfl

theorem bytes?_bytes (plain : List UInt8) {rest : List Piece} {denoted : List UInt8}
    (known : bytes? rest = some denoted) :
    bytes? (plain.map .byte ++ rest) = some (plain ++ denoted) := by
  induction plain with
  | nil => exact known
  | cons byte plain ih =>
      rw [List.map_cons, List.cons_append, bytes?, ih]
      rfl

theorem writes_plain {character : Char} (printable : 0x20 ≤ character.toNat)
    (quote : character.toNat ≠ 0x22) (backslash : character.toNat ≠ 0x5c) :
    Writes (utf8 [character]) character := by
  have all : ∀ byte ∈ String.utf8EncodeChar character,
      0x20 ≤ byte.toNat ∧ byte.toNat ≠ 0x22 ∧ byte.toNat ≠ 0x5c := by
    intro byte member
    by_cases ascii : character.toNat < 0x80
    · rw [utf8EncodeChar_of_lt ascii, List.mem_singleton] at member
      have same : byte.toNat = character.toNat := by
        rw [member, UInt8.toNat_ofNat']
        omega
      omega
    · have wide := le_of_mem_utf8EncodeChar (Nat.le_of_not_lt ascii) byte member
      omega
  refine ⟨(String.utf8EncodeChar character).map .byte, fun scanned => ?_, bytes?_bytes _⟩
  have one : utf8 [character] = String.utf8EncodeChar character := List.append_nil _
  rw [one]
  exact scan_bytes all scanned

/-! ## Escapes -/

theorem scan_short {mark : UInt8} (short : Char.ofUInt8 mark ≠ 'u') (rest : List UInt8) :
    scan (0x5c :: mark :: rest) = (shortEscape? (Char.ofUInt8 mark)).bind fun character =>
      (scan rest).map fun (pieces, tail) => (.character character :: pieces, tail) := by
  rw [scan.eq_def (0x5c :: mark :: rest)]
  change (if Char.ofUInt8 mark = 'u' then _ else _) = _
  rw [if_neg short]
  cases shortEscape? (Char.ofUInt8 mark) with
  | none => rfl
  | some character => cases scan rest <;> rfl

theorem scan_unit (first second third fourth : UInt8) (rest : List UInt8) :
    scan (0x5c :: 0x75 :: first :: second :: third :: fourth :: rest) =
      (unit? first second third fourth).bind fun unit =>
        (scan rest).map fun (pieces, tail) => (.unit unit :: pieces, tail) := by
  rw [scan.eq_def (0x5c :: 0x75 :: first :: second :: third :: fourth :: rest)]
  change (unit? first second third fourth).bind _ = _
  cases unit? first second third fourth with
  | none => rfl
  | some unit => cases scan rest <;> rfl

/-- A short escape stands for its character. -/
theorem writes_short {mark character : Char} (ascii : mark.toNat < 0x80) (long : mark ≠ 'u')
    (short : shortEscape? mark = some character) : Writes (utf8 ['\\', mark]) character := by
  have written : utf8 ['\\', mark] = [0x5c, UInt8.ofNat mark.toNat] := by
    rw [utf8_cons, utf8_cons, utf8EncodeChar_of_lt ascii]
    rfl
  refine ⟨[.character character], fun scanned => ?_, fun known => ?_⟩
  · have same := ofUInt8_ofNat ascii
    rw [written, List.cons_append, List.singleton_append,
      scan_short (by rw [same]; exact long), same, short, Option.bind_some, scanned]
    rfl
  · rw [List.singleton_append, bytes?, known]
    rfl

theorem hexDigit?_digitChar : ∀ digit < 16,
    hexDigit? (UInt8.ofNat (Radix.digitChar digit).toNat) = some digit := by decide

theorem digitChar_lt : ∀ digit < 16, (Radix.digitChar digit).toNat < 0x80 := by decide

theorem utf8_unitDigits (unit : Nat) : utf8 (unitDigits unit) =
    [UInt8.ofNat (Radix.digitChar (unit / 4096 % 16)).toNat,
      UInt8.ofNat (Radix.digitChar (unit / 256 % 16)).toNat,
      UInt8.ofNat (Radix.digitChar (unit / 16 % 16)).toNat,
      UInt8.ofNat (Radix.digitChar (unit % 16)).toNat] := by
  have ascii : ∀ number : Nat, String.utf8EncodeChar (Radix.digitChar (number % 16)) =
      [UInt8.ofNat (Radix.digitChar (number % 16)).toNat] := fun number =>
    utf8EncodeChar_of_lt (digitChar_lt _ (Nat.mod_lt _ (by decide)))
  unfold unitDigits
  simp only [utf8_cons, ascii]
  rfl

theorem unit?_unitDigits {unit : Nat} (bounded : unit < 65536) :
    unit? (UInt8.ofNat (Radix.digitChar (unit / 4096 % 16)).toNat)
      (UInt8.ofNat (Radix.digitChar (unit / 256 % 16)).toNat)
      (UInt8.ofNat (Radix.digitChar (unit / 16 % 16)).toNat)
      (UInt8.ofNat (Radix.digitChar (unit % 16)).toNat) = some unit := by
  have digit : ∀ number : Nat,
      hexDigit? (UInt8.ofNat (Radix.digitChar (number % 16)).toNat) = some (number % 16) :=
    fun number => hexDigit?_digitChar _ (Nat.mod_lt _ (by decide))
  unfold unit?
  simp only [digit, Option.bind_eq_bind, Option.bind_some, Option.pure_def, Option.some.injEq]
  omega

/-- A unit that is no surrogate denotes its code point, whatever follows. -/
theorem bytes?_unit {unit : Nat} (plain : unit < 0xD800) {rest : List Piece}
    {denoted : List UInt8} (known : bytes? rest = some denoted) :
    bytes? (.unit unit :: rest) = some (codePointBytes unit ++ denoted) := by
  have high : ¬(0xD800 ≤ unit ∧ unit < 0xDC00) := by omega
  have low : ¬(0xDC00 ≤ unit ∧ unit < 0xE000) := by omega
  have lone : ¬(0xD800 ≤ unit ∧ unit < 0xE000) := by omega
  cases rest with
  | nil => rw [bytes?, if_neg lone, known]; rfl; exact nofun
  | cons piece rest =>
      cases piece with
      | unit other => rw [bytes?, if_neg high, if_neg low, known]; rfl
      | byte value => rw [bytes?, if_neg lone, known]; rfl; exact nofun
      | character value => rw [bytes?, if_neg lone, known]; rfl; exact nofun

/-- A numbered escape stands for the character of its code unit. -/
theorem writes_unit {character : Char} (plain : character.toNat < 0xD800) :
    Writes (utf8 ('\\' :: 'u' :: unitDigits character.toNat)) character := by
  refine ⟨[.unit character.toNat], fun scanned => ?_, fun known => ?_⟩
  · have written : utf8 ('\\' :: 'u' :: unitDigits character.toNat) =
        0x5c :: 0x75 :: utf8 (unitDigits character.toNat) := rfl
    rw [written, utf8_unitDigits]
    simp only [List.cons_append, List.nil_append]
    rw [scan_unit, unit?_unitDigits (by omega), Option.bind_some, scanned]
    rfl
  · rw [List.singleton_append, bytes?_unit plain known]
    unfold codePointBytes
    rw [Char.ofNat_toNat]

/-- What is written for a character denotes the character. -/
theorem writes_escape (character : Char) : Writes (utf8 (escape character)) character := by
  unfold escape
  split
  · exact writes_short (by decide) (by decide) rfl
  · exact writes_short (by decide) (by decide) rfl
  · exact writes_short (by decide) (by decide) rfl
  · exact writes_short (by decide) (by decide) rfl
  · exact writes_short (by decide) (by decide) rfl
  · exact writes_short (by decide) (by decide) rfl
  · exact writes_short (by decide) (by decide) rfl
  · next quote backslash _ _ _ _ _ =>
      split
      · exact writes_unit (by omega)
      · refine writes_plain (by omega) (fun same => quote ?_) (fun same => backslash ?_)
        · exact Char.toNat_inj.mp same
        · exact Char.toNat_inj.mp same

/-! ## Whole literals -/

/-- **The literal of a text is scanned to its end and spells the text.** -/
theorem scan_encode (characters : List Char) (tail : List UInt8) :
    ∃ pieces, scan (utf8 (characters.flatMap escape) ++ 0x22 :: tail) = some (pieces, tail) ∧
      bytes? pieces = some (utf8 characters) := by
  induction characters with
  | nil => exact ⟨[], rfl, rfl⟩
  | cons character rest ih =>
      obtain ⟨pieces, scanned, known⟩ := ih
      obtain ⟨front, reads, denotes⟩ := writes_escape character
      refine ⟨front ++ pieces, ?_, denotes known⟩
      rw [List.flatMap_cons, utf8_append, List.append_assoc]
      exact reads scanned

end Rego.Quoted
