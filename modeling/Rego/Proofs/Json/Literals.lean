import Rego.Proofs.Json.Grammar

/-!
# Number literals in documents

A number literal of a document is a possible minus sign, digits of which no zero leads others, a
point with digits or none, and an exponent or none (`SpellsLiteral`). The reader takes the parts one
after the other. What it takes spells its part, and where a part ends in front of a text that does
not continue it, the reader takes all of it. So it finds a literal exactly where one stands
(`readNumber_sound`, `readNumber_of_spells`).

Of all documents only numbers come from number literals: a text is read as a number exactly if it is
a literal between white space, and the number keeps the literal's text (`ofBytes?_eq_number_iff`).
-/

namespace Rego

set_option autoImplicit false

namespace Text

theorem utf8_ofUInt8 {bytes : List UInt8} (ascii : ∀ byte ∈ bytes, byte.toNat < 0x80) :
    utf8 (bytes.map Char.ofUInt8) = bytes := by
  have small : ∀ character ∈ bytes.map Char.ofUInt8, character.toNat < 0x80 :=
    List.forall_mem_map.mpr ascii
  rw [utf8_of_ascii small, List.map_map]
  exact (List.map_congr_left fun byte _ => UInt8.ofNat_toNat).trans (List.map_id bytes)

theorem utf8_injective {front back : List Char} (same : utf8 front = utf8 back) :
    front = back := by
  have texts : bytes (String.ofList front) = bytes (String.ofList back) := by
    rw [bytes_ofList, bytes_ofList, same]
  have read := congrArg ofBytes? texts
  rw [ofBytes?_bytes, ofBytes?_bytes] at read
  exact String.ofList_injective (Option.some.inj read)

end Text

namespace Json

open Text NumberLiteral

/-! ## The grammar -/

/-- A minus sign, or none. -/
inductive SpellsMinus : List Char → Bool → Prop where
  | absent : SpellsMinus [] false
  | minus : SpellsMinus ['-'] true

/-- Digits of which no zero leads others. -/
structure SpellsWhole (whole : List Char) : Prop where
  inhabited : whole ≠ []
  digits : Digits whole
  leading : whole.head? = some '0' → whole.length = 1

/-- A point with digits, or nothing. -/
inductive SpellsFraction : List Char → List Char → Prop where
  | absent : SpellsFraction [] []
  | point {places : List Char} (inhabited : places ≠ []) (digits : Digits places) :
      SpellsFraction ('.' :: places) places

/-- The characters that mark an exponent. -/
def IsMark (character : Char) : Prop := character = 'e' ∨ character = 'E'

/-- The characters that may stand between the mark of an exponent and its digits. -/
def IsSign (character : Char) : Prop := character = '+' ∨ character = '-'

/-- A mark with an integer of any size, or nothing. -/
inductive SpellsScale : List Char → Int → Prop where
  | absent : SpellsScale [] 0
  | marked {mark : Char} {sign digits : List Char} {negative : Bool}
      (marks : IsMark mark) (signed : SpellsSign sign negative)
      (inhabited : digits ≠ []) (digital : Digits digits) :
      SpellsScale (mark :: (sign ++ digits))
        (Double.signed negative (Radix.decimalValue digits))

/-- The parts of a number literal, one after the other. -/
inductive SpellsLiteral : List Char → NumberLiteral → Prop where
  | parts {minus whole fraction places scale : List Char} {negative : Bool} {exponent : Int}
      (signed : SpellsMinus minus negative) (digits : SpellsWhole whole)
      (pointed : SpellsFraction fraction places) (scaled : SpellsScale scale exponent) :
      SpellsLiteral (minus ++ whole ++ fraction ++ scale) ⟨negative, whole, places, exponent⟩

/-! ## Digits -/

variable {input tail : List UInt8} {minus whole fraction places scale digits text : List Char}
  {literal : NumberLiteral}

theorem isDecimalDigit_ofUInt8 {byte : UInt8} :
    Radix.isDecimalDigit (Char.ofUInt8 byte) = isDigitByte byte := by
  unfold Radix.isDecimalDigit isDigitByte
  rw [toNat_ofUInt8, Bool.eq_iff_iff]
  simp only [Bool.and_eq_true, decide_eq_true_eq, UInt8.le_iff_toNat_le]
  simp
  omega

/-- **A run of digits is taken exactly if the text opens with it** and something else follows. -/
theorem readDigits_eq_some_iff : readDigits input = some (digits, tail) ↔
    digits ≠ [] ∧ Digits digits ∧ input = utf8 digits ++ tail ∧
      ∀ byte ∈ tail.head?, isDigitByte byte = false := by
  constructor
  · intro read
    have taken : ∀ byte ∈ input.takeWhile isDigitByte, isDigitByte byte = true :=
      fun _ member => List.mem_takeWhile_imp member
    unfold readDigits splitDigits at read
    simp only [Option.ite_none_left_eq_some, Option.some.injEq, Prod.mk.injEq] at read
    obtain ⟨inhabited, rfl, rfl⟩ := read
    have digital : Digits ((input.takeWhile isDigitByte).map Char.ofUInt8) :=
      List.forall_mem_map.mpr fun byte member => by
        rw [isDecimalDigit_ofUInt8]; exact taken byte member
    refine ⟨inhabited, digital, ?_, ?_⟩
    · rw [utf8_ofUInt8, List.takeWhile_append_dropWhile]
      intro byte member
      have range := Radix.toNat_of_digit (digital _ (List.mem_map_of_mem member))
      rw [toNat_ofUInt8] at range
      omega
    · intro byte first
      have stops := List.head?_dropWhile_not isDigitByte input
      rw [Option.mem_def.mp first] at stops
      exact stops
  · rintro ⟨inhabited, digital, rfl, stops⟩
    exact Numeral.readDigits_utf8 inhabited digital stops

/-! ## The other parts -/

/-- The byte of a character below `0x80`. -/
theorem utf8_cons_of_byte {byte : UInt8} {character : Char} (is : Char.ofUInt8 byte = character)
    (ascii : character.toNat < 0x80) (rest : List Char) :
    utf8 (character :: rest) = byte :: utf8 rest := by
  have same : UInt8.ofNat character.toNat = byte := by
    rw [← is, toNat_ofUInt8, UInt8.ofNat_toNat]
  rw [utf8_cons, utf8EncodeChar_of_lt ascii, same]
  rfl

theorem readMinus_sound (read : readMinus input = (minus, tail)) :
    ∃ negative, SpellsMinus minus negative ∧ input = utf8 minus ++ tail := by
  cases input with
  | nil =>
      cases read
      exact ⟨false, .absent, rfl⟩
  | cons byte rest =>
      rw [readMinus] at read
      split at read
      · next is =>
          cases read
          exact ⟨true, .minus, by rw [utf8_cons_of_byte is (by decide)]; rfl⟩
      · cases read
        exact ⟨false, .absent, rfl⟩

theorem readMinus_append {negative : Bool} (spells : SpellsMinus minus negative)
    (unsigned : ∀ byte ∈ input.head?, Char.ofUInt8 byte ≠ '-') :
    readMinus (utf8 minus ++ input) = (minus, input) := by
  cases spells with
  | minus => rfl
  | absent =>
      cases input with
      | nil => rfl
      | cons byte rest => exact if_neg (unsigned byte rfl)

theorem readWhole_eq_some_iff : readWhole input = some (whole, tail) ↔
    SpellsWhole whole ∧ input = utf8 whole ++ tail ∧
      ∀ byte ∈ tail.head?, isDigitByte byte = false := by
  unfold readWhole
  constructor
  · intro read
    obtain ⟨⟨digits, rest⟩, taken, read⟩ := Option.bind_eq_some_iff.mp read
    simp only [Option.ite_none_left_eq_some, Option.some.injEq, Prod.mk.injEq] at read
    obtain ⟨plain, rfl, rfl⟩ := read
    obtain ⟨inhabited, digital, same, stops⟩ := readDigits_eq_some_iff.mp taken
    refine ⟨⟨inhabited, digital, fun leading => ?_⟩, same, stops⟩
    exact Decidable.byContradiction fun longer => plain ⟨leading, longer⟩
  · rintro ⟨⟨inhabited, digital, leading⟩, same, stops⟩
    rw [readDigits_eq_some_iff.mpr ⟨inhabited, digital, same, stops⟩]
    exact if_neg fun plain => plain.2 (leading plain.1)

theorem readFraction_sound (read : readFraction input = some (fraction, tail)) :
    ∃ places, SpellsFraction fraction places ∧ input = utf8 fraction ++ tail := by
  cases input with
  | nil =>
      cases read
      exact ⟨[], .absent, rfl⟩
  | cons byte rest =>
      rw [readFraction] at read
      split at read
      · next is =>
          obtain ⟨⟨places, after⟩, taken, same⟩ := Option.map_eq_some_iff.mp read
          cases same
          obtain ⟨inhabited, digital, rfl, _⟩ := readDigits_eq_some_iff.mp taken
          refine ⟨places, .point inhabited digital, ?_⟩
          rw [utf8_cons_of_byte is (by decide), List.cons_append]
      · cases read
        exact ⟨[], .absent, rfl⟩

theorem readFraction_append (spells : SpellsFraction fraction places)
    (stops : ∀ byte ∈ tail.head?, isDigitByte byte = false ∧ Char.ofUInt8 byte ≠ '.') :
    readFraction (utf8 fraction ++ tail) = some (fraction, tail) := by
  cases spells with
  | absent =>
      cases tail with
      | nil => rfl
      | cons byte rest => exact if_neg (stops byte rfl).2
  | point inhabited digital =>
      have taken := readDigits_eq_some_iff.mpr
        ⟨inhabited, digital, rfl, fun byte first => (stops byte first).1⟩
      change (readDigits (utf8 places ++ tail)).map _ = _
      rw [taken]
      rfl

theorem IsMark.ascii {character : Char} (marks : IsMark character) : character.toNat < 0x80 := by
  rcases marks with rfl | rfl <;> decide

theorem IsSign.ascii {character : Char} (signs : IsSign character) : character.toNat < 0x80 := by
  rcases signs with rfl | rfl <;> decide

theorem IsSign.spells {character : Char} (signs : IsSign character) :
    ∃ negative, SpellsSign [character] negative := by
  rcases signs with rfl | rfl
  · exact ⟨false, .plus⟩
  · exact ⟨true, .minus⟩

theorem readExponent_unmarked {byte : UInt8} (unmarked : ¬IsMark (Char.ofUInt8 byte))
    (rest : List UInt8) : readExponent (byte :: rest) = some ([], byte :: rest) :=
  if_neg unmarked

theorem readExponent_signed {byte sign : UInt8} (marks : IsMark (Char.ofUInt8 byte))
    (signs : IsSign (Char.ofUInt8 sign)) (rest : List UInt8) :
    readExponent (byte :: sign :: rest) = (readDigits rest).map fun (digits, rest) =>
      (Char.ofUInt8 byte :: Char.ofUInt8 sign :: digits, rest) :=
  (if_pos marks).trans (if_pos signs)

theorem readExponent_unsigned {byte first : UInt8} (marks : IsMark (Char.ofUInt8 byte))
    (unsigned : ¬IsSign (Char.ofUInt8 first)) (rest : List UInt8) :
    readExponent (byte :: first :: rest) = (readDigits (first :: rest)).map fun (digits, rest) =>
      (Char.ofUInt8 byte :: digits, rest) :=
  (if_pos marks).trans (if_neg unsigned)

theorem readExponent_sound (read : readExponent input = some (scale, tail)) :
    ∃ exponent, SpellsScale scale exponent ∧ input = utf8 scale ++ tail := by
  match input with
  | [] =>
      cases read
      exact ⟨0, .absent, rfl⟩
  | byte :: rest =>
      by_cases marks : IsMark (Char.ofUInt8 byte)
      · match rest with
        | [] =>
            rw [show readExponent [byte] = none from if_pos marks] at read
            cases read
        | sign :: rest =>
            by_cases signs : IsSign (Char.ofUInt8 sign)
            · obtain ⟨negative, signed⟩ := signs.spells
              rw [readExponent_signed marks signs] at read
              obtain ⟨⟨digits, left⟩, taken, same⟩ := Option.map_eq_some_iff.mp read
              obtain ⟨inhabited, digital, rfl, _⟩ := readDigits_eq_some_iff.mp taken
              cases same
              refine ⟨_, .marked marks signed inhabited digital, ?_⟩
              rw [utf8_cons_of_byte rfl marks.ascii, utf8_cons_of_byte rfl signs.ascii]
              rfl
            · rw [readExponent_unsigned marks signs] at read
              obtain ⟨⟨digits, left⟩, taken, same⟩ := Option.map_eq_some_iff.mp read
              obtain ⟨inhabited, digital, split, _⟩ := readDigits_eq_some_iff.mp taken
              cases same
              refine ⟨_, .marked marks .absent inhabited digital, ?_⟩
              rw [utf8_cons_of_byte rfl marks.ascii, split]
              rfl
      · rw [readExponent_unmarked marks] at read
        cases read
        exact ⟨0, .absent, rfl⟩

theorem readExponent_append {exponent : Int} (spells : SpellsScale scale exponent)
    (stops : ∀ byte ∈ tail.head?, isDigitByte byte = false ∧ ¬IsMark (Char.ofUInt8 byte)) :
    readExponent (utf8 scale ++ tail) = some (scale, tail) := by
  cases spells with
  | absent =>
      cases tail with
      | nil => rfl
      | cons byte rest => exact readExponent_unmarked (stops byte rfl).2 rest
  | @marked mark sign digits negative marks signed inhabited digital =>
      have taken := readDigits_eq_some_iff.mpr
        ⟨inhabited, digital, rfl, fun byte first => (stops byte first).1⟩
      have is : Char.ofUInt8 (UInt8.ofNat mark.toNat) = mark := ofUInt8_ofNat marks.ascii
      have marking : IsMark (Char.ofUInt8 (UInt8.ofNat mark.toNat)) := is.symm ▸ marks
      rw [utf8_cons_of_byte is marks.ascii, List.cons_append]
      cases signed with
      | plus =>
          change readExponent (_ :: 0x2b :: (utf8 digits ++ tail)) = _
          rw [readExponent_signed marking (.inl rfl), taken, Option.map_some, is]
          rfl
      | minus =>
          change readExponent (_ :: 0x2d :: (utf8 digits ++ tail)) = _
          rw [readExponent_signed marking (.inr rfl), taken, Option.map_some, is]
          rfl
      | absent =>
          obtain ⟨first, rest, opens⟩ := List.exists_cons_of_ne_nil inhabited
          have digit : Radix.isDecimalDigit first = true :=
            digital first (opens ▸ List.mem_cons_self)
          have small : first.toNat < 0x80 := by
            have range := Radix.toNat_of_digit digit
            omega
          have shows : Char.ofUInt8 (UInt8.ofNat first.toNat) = first := ofUInt8_ofNat small
          have unsigned : ¬IsSign (Char.ofUInt8 (UInt8.ofNat first.toNat)) := by
            rw [shows]
            exact fun signs => signs.elim (ne_of_digit digit (by decide))
              (ne_of_digit digit (by decide))
          rw [List.nil_append]
          rw [opens, utf8_cons_of_byte shows small, List.cons_append] at taken ⊢
          rw [readExponent_unsigned marking unsigned, taken, Option.map_some, is]

/-! ## Whole literals -/

/-- The first byte of a text that opens with a digit. -/
theorem exists_utf8_eq_cons (digital : Digits digits) (inhabited : digits ≠ []) :
    ∃ byte rest, utf8 digits = byte :: rest ∧ isDigitByte byte = true := by
  obtain ⟨first, rest, opens⟩ := List.exists_cons_of_ne_nil inhabited
  have digit : Radix.isDecimalDigit first = true := digital first (opens ▸ List.mem_cons_self)
  have range := Radix.toNat_of_digit digit
  rw [opens, utf8_cons_of_byte (ofUInt8_ofNat (by omega)) (by omega)]
  exact ⟨_, _, rfl, Numeral.isDigitByte_ofNat digit⟩

/-- **What the reader takes is a literal.** -/
theorem readNumber_sound (read : readNumber input = some (text, tail)) :
    ∃ literal, SpellsLiteral text literal ∧ input = utf8 text ++ tail := by
  unfold readNumber at read
  simp only [Option.bind_eq_bind, Option.bind_eq_some_iff, Prod.exists, Option.pure_def,
    Option.some.injEq, Prod.mk.injEq] at read
  obtain ⟨whole, afterWhole, readWhole, fraction, afterFraction, readFraction, scale, afterScale,
    readScale, rfl, rfl⟩ := read
  obtain ⟨negative, signed, sameMinus⟩ :=
    readMinus_sound (rfl : readMinus input = ((readMinus input).1, (readMinus input).2))
  obtain ⟨digits, sameWhole, _⟩ := readWhole_eq_some_iff.mp readWhole
  obtain ⟨places, pointed, sameFraction⟩ := readFraction_sound readFraction
  obtain ⟨exponent, scaled, sameScale⟩ := readExponent_sound readScale
  refine ⟨_, .parts signed digits pointed scaled, ?_⟩
  rw [utf8_append, utf8_append, utf8_append, List.append_assoc, List.append_assoc,
    List.append_assoc, ← sameScale, ← sameFraction, ← sameWhole]
  exact sameMinus

/-- No digit and no point opens an exponent. -/
theorem SpellsScale.stops {exponent : Int} (spells : SpellsScale scale exponent)
    (ends : Numeral.Ends tail) :
    ∀ byte ∈ (utf8 scale ++ tail).head?, isDigitByte byte = false ∧ Char.ofUInt8 byte ≠ '.' := by
  cases spells with
  | absent => exact fun byte first => ⟨(ends byte first).1, (ends byte first).2.1⟩
  | marked marks signed inhabited digital =>
      intro byte first
      rcases marks with rfl | rfl <;> cases first <;> decide

/-- No digit opens a fraction. -/
theorem SpellsFraction.stops (spells : SpellsFraction fraction places)
    (stops : ∀ byte ∈ tail.head?, isDigitByte byte = false) :
    ∀ byte ∈ (utf8 fraction ++ tail).head?, isDigitByte byte = false := by
  cases spells with
  | absent => exact stops
  | point inhabited digital =>
      intro byte first
      cases first
      decide

/-- **A literal is taken to its end**, where the text that follows does not continue it. -/
theorem readNumber_of_spells (spells : SpellsLiteral text literal) (ends : Numeral.Ends tail) :
    readNumber (utf8 text ++ tail) = some (text, tail) := by
  obtain @⟨minus, whole, fraction, places, scale, negative, exponent, signed, digits, pointed,
    scaled⟩ := spells
  have readScale : readExponent (utf8 scale ++ tail) = some (scale, tail) :=
    readExponent_append scaled fun byte first =>
      ⟨(ends byte first).1, fun marks =>
        marks.elim (ends byte first).2.2.1 (ends byte first).2.2.2⟩
  have readPlaces : readFraction (utf8 fraction ++ (utf8 scale ++ tail)) =
      some (fraction, utf8 scale ++ tail) := readFraction_append pointed (scaled.stops ends)
  have readDigits : readWhole (utf8 whole ++ (utf8 fraction ++ (utf8 scale ++ tail))) =
      some (whole, utf8 fraction ++ (utf8 scale ++ tail)) :=
    readWhole_eq_some_iff.mpr ⟨digits, rfl,
      pointed.stops fun byte first => (scaled.stops ends byte first).1⟩
  have unsigned : ∀ byte ∈ (utf8 whole ++ (utf8 fraction ++ (utf8 scale ++ tail))).head?,
      Char.ofUInt8 byte ≠ '-' := by
    obtain ⟨byte, rest, opens, digit⟩ := exists_utf8_eq_cons digits.digits digits.inhabited
    intro other first
    rw [opens] at first
    cases first
    rw [← isDecimalDigit_ofUInt8] at digit
    exact ne_of_digit digit (by decide)
  have readSign := readMinus_append signed unsigned
  unfold readNumber
  simp only [utf8_append, List.append_assoc, readSign, readDigits, readPlaces, readScale,
    Option.bind_eq_bind, Option.bind_some, Option.pure_def]

/-! ## Literals as documents -/

theorem SpellsMinus.mem {negative : Bool} (spells : SpellsMinus minus negative) {character : Char}
    (member : character ∈ minus) : character = '-' := by
  cases spells with
  | absent => cases member
  | minus => exact List.mem_singleton.mp member

/-- The first byte of a literal. -/
theorem SpellsLiteral.exists_cons (spells : SpellsLiteral text literal) :
    ∃ byte rest, utf8 text = byte :: rest ∧ 45 ≤ byte.toNat ∧ byte.toNat < 58 := by
  obtain @⟨minus, whole, fraction, places, scale, negative, exponent, signed, digits, _, _⟩ :=
    spells
  obtain ⟨byte, rest, opens, digit⟩ := exists_utf8_eq_cons digits.digits digits.inhabited
  rw [utf8_append, utf8_append, utf8_append, opens]
  cases signed with
  | minus => exact ⟨0x2d, _, rfl, by decide, by decide⟩
  | absent =>
      rw [← isDecimalDigit_ofUInt8] at digit
      have range := Radix.toNat_of_digit digit
      rw [toNat_ofUInt8] at range
      exact ⟨byte, _, rfl, by omega, range.2⟩

theorem readValue_literal (spells : SpellsLiteral text literal) (ends : Numeral.Ends tail)
    (bound : Nat) :
    readValue (bound + 1) (utf8 text ++ tail) = some (.number (String.ofList text), tail) := by
  have read := readNumber_of_spells spells ends
  obtain ⟨byte, rest, opens, least, most⟩ := spells.exists_cons
  have dark : isBlankByte byte = false := by
    rw [← Bool.not_eq_true]
    simp only [isBlankByte, Bool.or_eq_true, beq_iff_eq]
    rintro (((rfl | rfl) | rfl) | rfl) <;> exact absurd least (by decide)
  rw [← toNat_ofUInt8] at least most
  rw [opens, List.cons_append] at read ⊢
  rw [readValue, skipBlank_cons dark]
  dsimp only
  generalize Char.ofUInt8 byte = first at least most
  -- No character that a document of another kind opens with is in the range.
  split
  · exact absurd most (by decide)
  · exact absurd most (by decide)
  · exact absurd most (by decide)
  · exact absurd least (by decide)
  · exact absurd most (by decide)
  · exact absurd most (by decide)
  · rw [read]
    rfl

theorem readWord_eq_some {word : List Char} {keyword document : Document.Raw}
    (read : readWord word keyword input = some (document, tail)) : document = keyword := by
  unfold readWord at read
  simp only [Option.ite_none_right_eq_some, Option.some.injEq, Prod.mk.injEq] at read
  exact read.2.1.symm

/-- **Only a literal is read as a number.** -/
theorem readValue_eq_number {bound : Nat} {name : String}
    (read : readValue bound input = some (.number name, tail)) :
    ∃ text literal, SpellsLiteral text literal ∧ name = String.ofList text ∧
      skipBlank input = utf8 text ++ tail := by
  cases bound with
  | zero => cases read
  | succ bound =>
      rw [readValue] at read
      split at read
      · cases read
      · next byte rest found =>
          split at read
          · cases readWord_eq_some read
          · cases readWord_eq_some read
          · cases readWord_eq_some read
          · obtain ⟨_, _, same⟩ := Option.map_eq_some_iff.mp read
            cases same
          · split at read
            · cases read
            · obtain ⟨_, _, same⟩ := Option.map_eq_some_iff.mp read
              cases same
          · split at read
            · cases read
            · obtain ⟨_, _, same⟩ := Option.map_eq_some_iff.mp read
              cases same
          · obtain ⟨⟨text, left⟩, taken, same⟩ := Option.map_eq_some_iff.mp read
            cases same
            obtain ⟨literal, spells, split⟩ := readNumber_sound taken
            exact ⟨text, literal, spells, rfl, found.trans split⟩

/-! ## Literals between white space -/

/-- The characters that are white space in documents. -/
def isBlank (character : Char) : Bool := [' ', '\t', '\n', '\r'].contains character

/-- A text without the white space around it. -/
def stripped (text : List Char) : List Char := trimWhile isBlank text

theorem isBlank_iff {character : Char} : isBlank character = true ↔
    character = ' ' ∨ character = '\t' ∨ character = '\n' ∨ character = '\r' := by
  simp only [isBlank, List.contains_iff_mem, List.mem_cons, List.not_mem_nil, or_false]

theorem isBlankByte_iff {byte : UInt8} : isBlankByte byte = true ↔
    byte = 0x20 ∨ byte = 0x09 ∨ byte = 0x0a ∨ byte = 0x0d := by
  simp only [isBlankByte, Bool.or_eq_true, beq_iff_eq, or_assoc]

theorem blank_utf8 {space : List Char} (blank : ∀ character ∈ space, isBlank character = true) :
    Blank (utf8 space) := by
  intro byte member
  obtain ⟨character, inside, member⟩ := List.mem_flatMap.mp member
  rw [isBlankByte_iff]
  rcases isBlank_iff.mp (blank character inside) with rfl | rfl | rfl | rfl
  · exact .inl (List.mem_singleton.mp member)
  · exact .inr (.inl (List.mem_singleton.mp member))
  · exact .inr (.inr (.inl (List.mem_singleton.mp member)))
  · exact .inr (.inr (.inr (List.mem_singleton.mp member)))

theorem exists_utf8_eq {space : List UInt8} (blank : Blank space) :
    ∃ characters, (∀ character ∈ characters, isBlank character = true) ∧
      space = utf8 characters := by
  have ascii : ∀ byte ∈ space, byte.toNat < 0x80 := by
    intro byte member
    rcases isBlankByte_iff.mp (blank byte member) with rfl | rfl | rfl | rfl <;> decide
  refine ⟨space.map Char.ofUInt8, List.forall_mem_map.mpr ?_, (utf8_ofUInt8 ascii).symm⟩
  intro byte member
  rw [isBlank_iff]
  rcases isBlankByte_iff.mp (blank byte member) with rfl | rfl | rfl | rfl <;> decide

/-- The characters from the plus sign to the last one below `0x80`. -/
def IsPlain (character : Char) : Prop := 43 ≤ character.toNat ∧ character.toNat < 0x80

instance (character : Char) : Decidable (IsPlain character) := inferInstanceAs (Decidable (_ ∧ _))

theorem isPlain_of_digits (digital : Digits digits) : ∀ character ∈ digits, IsPlain character := by
  intro character member
  have range := Radix.toNat_of_digit (digital character member)
  exact ⟨by omega, by omega⟩

theorem SpellsScale.plain {exponent : Int} (spells : SpellsScale scale exponent) :
    ∀ character ∈ scale, IsPlain character := by
  cases spells with
  | absent => exact nofun
  | marked marks signed inhabited digital =>
      refine List.forall_mem_cons.mpr ⟨by rcases marks with rfl | rfl <;> decide, ?_⟩
      intro character member
      rcases List.mem_append.mp member with sign | digit
      · cases signed with
        | absent => cases sign
        | plus => rw [List.mem_singleton.mp sign]; decide
        | minus => rw [List.mem_singleton.mp sign]; decide
      · exact isPlain_of_digits digital character digit

theorem SpellsLiteral.plain (spells : SpellsLiteral text literal) :
    ∀ character ∈ text, IsPlain character := by
  obtain @⟨minus, whole, fraction, places, scale, negative, exponent, signed, digits, pointed,
    scaled⟩ := spells
  intro character member
  simp only [List.mem_append] at member
  rcases member with ((sign | digit) | fractional) | scale
  · rw [signed.mem sign]
    decide
  · exact isPlain_of_digits digits.digits character digit
  · cases pointed with
    | absent => cases fractional
    | point inhabited digital =>
        rcases List.mem_cons.mp fractional with rfl | place
        · decide
        · exact isPlain_of_digits digital character place
  · exact scaled.plain character scale

/-- No white space stands within a literal. -/
theorem SpellsLiteral.solid (spells : SpellsLiteral text literal) :
    ∀ character ∈ text, isBlank character = false := by
  intro character member
  have above := (spells.plain character member).1
  rw [← Bool.not_eq_true, isBlank_iff]
  rintro (rfl | rfl | rfl | rfl) <;> exact absurd above (by decide)

end Json

/-- **A text is read as a number exactly if it is a literal between white space.** -/
theorem Document.ofBytes?_eq_number_iff {text name : String} :
    ofBytes? (Text.bytes text) = some (.number name) ↔
      name = String.ofList (Json.stripped text.toList) ∧
        ∃ literal, Json.SpellsLiteral (Json.stripped text.toList) literal := by
  rw [Text.bytes_eq_utf8]
  constructor
  · intro read
    unfold ofBytes? at read
    split at read
    · next document rest found =>
        simp only [Option.ite_none_right_eq_some, Option.some.injEq] at read
        obtain ⟨blank, rfl⟩ := read
        obtain ⟨core, literal, spells, rfl, opens⟩ := Json.readValue_eq_number found
        have leading : Json.Blank ((Text.utf8 text.toList).takeWhile Json.isBlankByte) :=
          fun _ member => List.mem_takeWhile_imp member
        have trailing : Json.Blank rest := List.dropWhile_eq_nil_iff.mp blank
        obtain ⟨before, blankBefore, sameBefore⟩ := Json.exists_utf8_eq leading
        obtain ⟨after, blankAfter, sameAfter⟩ := Json.exists_utf8_eq trailing
        have parts : text.toList = before ++ core ++ after := by
          refine Text.utf8_injective ?_
          rw [Text.utf8_append, Text.utf8_append, List.append_assoc, ← sameBefore, ← sameAfter,
            ← opens]
          exact (List.takeWhile_append_dropWhile (p := Json.isBlankByte)).symm
        have core_eq : Json.stripped text.toList = core := by
          rw [Json.stripped, parts]
          exact Text.trimWhile_append blankBefore spells.solid blankAfter
        rw [core_eq]
        exact ⟨rfl, literal, spells⟩
    · cases read
  · rintro ⟨rfl, literal, spells⟩
    obtain ⟨before, after, leading, trailing, same⟩ :=
      Text.exists_trimWhile Json.isBlank text.toList
    have ends : Numeral.Ends (Text.utf8 after) := by
      have := Json.ends_of_blank (Json.blank_utf8 trailing) (show Numeral.Ends [] from nofun)
      rwa [List.append_nil] at this
    have parts : Text.utf8 text.toList =
        Text.utf8 before ++ (Text.utf8 (Json.stripped text.toList) ++ Text.utf8 after) := by
      conv => lhs; rw [same]
      rw [Text.utf8_append, Text.utf8_append, List.append_assoc, Json.stripped]
    unfold ofBytes?
    rw [parts, Json.readValue_append (Json.blank_utf8 leading),
      Json.readValue_literal spells ends]
    exact if_pos (Json.skipBlank_eq_nil (Json.blank_utf8 trailing))

end Rego
