import Rego.Proofs.Number.Grammar
import Rego.Proofs.Text.Utf8
import Rego.Json.Reader

/-!
# Numerals

A numeral is a number literal without an exponent: a possible minus sign, digits without a leading
zero, and possibly a point with more digits. It is read in the same parts wherever it stands: as a
literal of its own (`read?_text`) and in a document, where what follows it must not continue it
(`readNumber_text`).
-/

namespace Rego

set_option autoImplicit false

/-- A number literal without an exponent, in its parts; without places there is no point. -/
structure Numeral where
  negative : Bool
  whole : List Char
  places : List Char
  inhabited : whole ≠ []
  whole_digits : ∀ character ∈ whole, Radix.isDecimalDigit character = true
  places_digits : ∀ character ∈ places, Radix.isDecimalDigit character = true
  leading : whole.head? = some '0' → whole.length = 1

namespace Numeral

/-- The point with the digits after it, if there are any. -/
def fraction (numeral : Numeral) : List Char :=
  if numeral.places = [] then [] else '.' :: numeral.places

/-- The text of a numeral. -/
def text (numeral : Numeral) : List Char :=
  Double.withSign numeral.negative (numeral.whole ++ numeral.fraction)

/-! ## Characters of numerals -/

/-- A sign or a digit opens a numeral. -/
theorem exists_text_eq_cons (numeral : Numeral) : ∃ first rest, numeral.text = first :: rest ∧
    45 ≤ first.toNat ∧ first.toNat < 58 := by
  obtain ⟨first, rest, same⟩ := List.exists_cons_of_ne_nil numeral.inhabited
  have range := Radix.toNat_of_digit
    (numeral.whole_digits first (by rw [same]; exact List.mem_cons_self))
  unfold text Double.withSign
  split
  · exact ⟨_, _, rfl, by decide, by decide⟩
  · exact ⟨first, rest ++ numeral.fraction, by rw [same]; rfl, by omega, by omega⟩

/-! ## Numerals as literals -/

theorem spells (numeral : Numeral) : NumberLiteral.Spells numeral.text
    ⟨numeral.negative, numeral.whole, numeral.places, 0⟩ := by
  have mantissa : NumberLiteral.SpellsMantissa (numeral.whole ++ numeral.fraction) numeral.whole
      numeral.places := by
    unfold fraction
    split
    · next none =>
        rw [none, List.append_nil]
        exact .whole numeral.inhabited numeral.whole_digits
    · exact .point (.inl numeral.inhabited) numeral.whole_digits numeral.places_digits
  unfold text Double.withSign
  cases numeral.negative with
  | true =>
      have parts := NumberLiteral.Spells.parts .minus mantissa .absent
      rwa [List.append_nil, List.singleton_append] at parts
  | false =>
      have parts := NumberLiteral.Spells.parts .absent mantissa .absent
      rwa [List.append_nil, List.nil_append] at parts

/-- **A numeral is read as the literal of its parts.** -/
theorem read?_text (numeral : Numeral) : NumberLiteral.read? numeral.text =
    some ⟨numeral.negative, numeral.whole, numeral.places, 0⟩ := by
  unfold NumberLiteral.read?
  rw [Text.trimWhile_eq_self numeral.spells.solid]
  exact NumberLiteral.readTrimmed?_eq_some_iff.mpr numeral.spells

/-! ## Numerals in documents -/

/-- What follows does not continue a numeral. -/
def Ends (tail : List UInt8) : Prop :=
  ∀ byte ∈ tail.head?, Json.isDigitByte byte = false ∧ Char.ofUInt8 byte ≠ '.' ∧
    Char.ofUInt8 byte ≠ 'e' ∧ Char.ofUInt8 byte ≠ 'E'

theorem isDigitByte_ofNat {character : Char} (digit : Radix.isDecimalDigit character = true) :
    Json.isDigitByte (UInt8.ofNat character.toNat) = true := by
  have range := Radix.toNat_of_digit digit
  unfold Json.isDigitByte
  simp only [Bool.and_eq_true, decide_eq_true_eq, UInt8.le_iff_toNat_le, UInt8.toNat_ofNat']
  exact ⟨by simp; omega, by simp; omega⟩

/-- A run of digits is read up to the first byte that is none. -/
theorem readDigits_utf8 {digits : List Char} (inhabited : digits ≠ [])
    (all : ∀ character ∈ digits, Radix.isDecimalDigit character = true) {tail : List UInt8}
    (ends : ∀ byte ∈ tail.head?, Json.isDigitByte byte = false) :
    Json.readDigits (Text.utf8 digits ++ tail) = some (digits, tail) := by
  have ascii : ∀ character ∈ digits, character.toNat < 0x80 := fun character member => by
    have range := Radix.toNat_of_digit (all character member)
    omega
  have bytes : ∀ byte ∈ Text.utf8 digits, Json.isDigitByte byte = true := by
    rw [Text.utf8_of_ascii ascii, List.forall_mem_map]
    exact fun character member => isDigitByte_ofNat (all character member)
  have back : (Text.utf8 digits).map Char.ofUInt8 = digits := by
    rw [Text.utf8_of_ascii ascii, List.map_map]
    refine (List.map_congr_left fun character member => ?_).trans (List.map_id digits)
    exact Text.ofUInt8_ofNat (ascii character member)
  have stop : tail.takeWhile Json.isDigitByte = [] ∧ tail.dropWhile Json.isDigitByte = tail := by
    cases tail with
    | nil => exact ⟨rfl, rfl⟩
    | cons byte rest =>
        have last := ends byte rfl
        exact ⟨List.takeWhile_cons_of_neg (by simp [last]),
          List.dropWhile_cons_of_neg (by simp [last])⟩
  unfold Json.readDigits Json.splitDigits
  rw [List.takeWhile_append_of_pos bytes, List.dropWhile_append_of_pos bytes, stop.1, stop.2,
    List.append_nil, back]
  exact if_neg inhabited

theorem readWhole_utf8 (numeral : Numeral) {tail : List UInt8}
    (ends : ∀ byte ∈ tail.head?, Json.isDigitByte byte = false) :
    Json.readWhole (Text.utf8 numeral.whole ++ tail) = some (numeral.whole, tail) := by
  unfold Json.readWhole
  rw [readDigits_utf8 numeral.inhabited numeral.whole_digits ends]
  refine if_neg fun bad => bad.2 (numeral.leading bad.1)

theorem readFraction_utf8 (numeral : Numeral) {tail : List UInt8} (ends : Ends tail) :
    Json.readFraction (Text.utf8 numeral.fraction ++ tail) = some (numeral.fraction, tail) := by
  unfold fraction
  split
  · cases tail with
    | nil => rfl
    | cons byte rest => exact if_neg (ends byte rfl).2.1
  · next inhabited =>
      have point : Text.utf8 ('.' :: numeral.places) = 0x2e :: Text.utf8 numeral.places := rfl
      rw [point, List.cons_append]
      change (Json.readDigits _).map _ = _
      rw [readDigits_utf8 inhabited numeral.places_digits fun byte here => (ends byte here).1]
      rfl

theorem readExponent_of_ends {tail : List UInt8} (ends : Ends tail) :
    Json.readExponent tail = some ([], tail) := by
  cases tail with
  | nil => rfl
  | cons byte rest =>
      obtain ⟨_, _, small, capital⟩ := ends byte rfl
      exact if_neg fun mark => mark.elim small capital

theorem readMinus_utf8 (numeral : Numeral) (tail : List UInt8) :
    Json.readMinus (Text.utf8 numeral.text ++ tail) =
      (if numeral.negative then ['-'] else [],
        Text.utf8 (numeral.whole ++ numeral.fraction) ++ tail) := by
  obtain ⟨first, rest, same⟩ := List.exists_cons_of_ne_nil numeral.inhabited
  have range := Radix.toNat_of_digit
    (numeral.whole_digits first (by rw [same]; exact List.mem_cons_self))
  have ascii : first.toNat < 0x80 := by omega
  unfold text Double.withSign
  cases numeral.negative with
  | true => rfl
  | false =>
      rw [if_neg Bool.false_ne_true, same, List.cons_append, Text.utf8_cons,
        Text.utf8EncodeChar_of_lt ascii, List.append_assoc, List.singleton_append]
      refine if_neg fun minus => ?_
      rw [Text.ofUInt8_ofNat ascii] at minus
      rw [minus] at range
      exact absurd range (by decide)

/-- **A numeral in a document is read to its end.** -/
theorem readNumber_text (numeral : Numeral) {tail : List UInt8} (ends : Ends tail) :
    Json.readNumber (Text.utf8 numeral.text ++ tail) = some (numeral.text, tail) := by
  have stop : ∀ byte ∈ (Text.utf8 numeral.fraction ++ tail).head?,
      Json.isDigitByte byte = false := by
    unfold fraction
    split
    · exact fun byte here => (ends byte here).1
    · intro byte here
      cases here
      decide
  unfold Json.readNumber
  simp only [readMinus_utf8, Text.utf8_append, List.append_assoc, readWhole_utf8 numeral stop,
    readFraction_utf8 numeral ends, readExponent_of_ends ends, Option.bind_eq_bind,
    Option.bind_some, List.append_nil, Option.pure_def, Option.some.injEq, Prod.mk.injEq, and_true]
  unfold text Double.withSign
  cases numeral.negative <;> simp

end Numeral

end Rego
