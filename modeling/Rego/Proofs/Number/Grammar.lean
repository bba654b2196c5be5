import Rego.Number.Literal
import Rego.Proofs.Text.Blank
import Rego.Proofs.Text.Digits

/-!
# The grammar of number literals

A number literal is a sign or none, a mantissa, and an exponent or none; it may stand between white
space. The relations below say which characters spell which part, without an order of reading. Each
step of the reader splits off one part where the grammar ends it: a sign is never part of what
follows it, no digit marks an exponent, and no digit is a point. So the reader finds exactly the
parts that a text spells (`read?_eq_some_iff`).
-/

namespace Rego

set_option autoImplicit false

namespace NumberLiteral

/-! ## The grammar -/

/-- Decimal digits only. -/
def Digits (characters : List Char) : Prop :=
  ∀ character ∈ characters, Radix.isDecimalDigit character = true

instance (characters : List Char) : Decidable (Digits characters) :=
  List.decidableBAll _ characters

/-- One sign, or none. -/
inductive SpellsSign : List Char → Bool → Prop where
  | absent : SpellsSign [] false
  | plus : SpellsSign ['+'] false
  | minus : SpellsSign ['-'] true

/-- Digits with at most one point among them. -/
inductive SpellsMantissa : List Char → List Char → List Char → Prop where
  | whole {whole : List Char} (some : whole ≠ []) (digits : Digits whole) :
      SpellsMantissa whole whole []
  | point {whole fraction : List Char} (some : whole ≠ [] ∨ fraction ≠ []) (digits : Digits whole)
      (places : Digits fraction) : SpellsMantissa (whole ++ '.' :: fraction) whole fraction

/-- A sign or none, and digits whose value is a machine word. -/
inductive SpellsWord : List Char → Int → Prop where
  | word {sign digits : List Char} {negative : Bool} (signed : SpellsSign sign negative)
      (some : digits ≠ []) (digital : Digits digits)
      (fits : Number.FitsWord (Double.signed negative (Radix.decimalValue digits))) :
      SpellsWord (sign ++ digits) (Double.signed negative (Radix.decimalValue digits))

/-- An exponent with its mark, or none. -/
inductive SpellsExponent : List Char → Int → Prop where
  | absent : SpellsExponent [] 0
  | marked {mark : Char} {word : List Char} {value : Int} (marks : mark = 'e' ∨ mark = 'E')
      (spells : SpellsWord word value) : SpellsExponent (mark :: word) value

/-- The parts of a literal, one after the other. -/
inductive Spells : List Char → NumberLiteral → Prop where
  | parts {sign mantissa tail whole fraction : List Char} {negative : Bool} {exponent : Int}
      (signed : SpellsSign sign negative) (digits : SpellsMantissa mantissa whole fraction)
      (scaled : SpellsExponent tail exponent) :
      Spells (sign ++ mantissa ++ tail) ⟨negative, whole, fraction, exponent⟩

/-- A literal between white space. -/
inductive Written : List Char → NumberLiteral → Prop where
  | between {before core after : List Char} {literal : NumberLiteral}
      (leading : ∀ character ∈ before, Text.isBlank character = true) (spells : Spells core literal)
      (trailing : ∀ character ∈ after, Text.isBlank character = true) :
      Written (before ++ core ++ after) literal

/-! ## Signs -/

variable {sign characters rest mantissa tail whole fraction : List Char} {negative : Bool}
  {exponent value : Int} {literal : NumberLiteral}

theorem splitSign_append (spells : SpellsSign sign negative)
    (unsigned : ∀ character ∈ rest.head?, character ≠ '-' ∧ character ≠ '+') :
    splitSign (sign ++ rest) = (negative, rest) := by
  cases spells with
  | plus => rfl
  | minus => rfl
  | absent =>
      rw [List.nil_append]
      unfold splitSign
      split
      · exact absurd rfl (unsigned '-' rfl).1
      · exact absurd rfl (unsigned '+' rfl).2
      · rfl

theorem exists_sign (characters : List Char) :
    ∃ sign, SpellsSign sign (splitSign characters).1 ∧
      characters = sign ++ (splitSign characters).2 := by
  unfold splitSign
  split
  · exact ⟨_, .minus, rfl⟩
  · exact ⟨_, .plus, rfl⟩
  · exact ⟨_, .absent, rfl⟩

/-- A digit is no character that is none. -/
theorem ne_of_digit {character other : Char} (digit : Radix.isDecimalDigit character = true)
    (none : Radix.isDecimalDigit other = false) : character ≠ other := by
  rintro rfl
  rw [digit] at none
  cases none

theorem Digits.unsigned (digits : Digits characters) :
    ∀ character ∈ characters.head?, character ≠ '-' ∧ character ≠ '+' :=
  fun character first =>
    have digit := digits character (List.mem_of_mem_head? first)
    ⟨ne_of_digit digit (by decide), ne_of_digit digit (by decide)⟩

theorem allDigits_iff : allDigits characters = true ↔ Digits characters := List.all_eq_true

/-! ## Exponents -/

theorem readExponent?_eq_some_iff :
    readExponent? characters = some value ↔ SpellsWord characters value := by
  constructor
  · intro read
    obtain ⟨sign, spells, same⟩ := exists_sign characters
    simp only [readExponent?, Option.ite_none_right_eq_some, Option.some.injEq, allDigits_iff]
      at read
    obtain ⟨⟨some, digits, fits⟩, rfl⟩ := read
    have word := SpellsWord.word spells some digits fits
    rwa [← same] at word
  · rintro ⟨spells, some, digits, fits⟩
    unfold readExponent?
    rw [splitSign_append spells digits.unsigned]
    exact if_pos ⟨some, allDigits_iff.mpr digits, fits⟩

theorem isExponentMark_iff {character : Char} :
    isExponentMark character = true ↔ character = 'e' ∨ character = 'E' := by
  rw [isExponentMark, Bool.or_eq_true, beq_iff_eq, beq_iff_eq]

/-- Where no exponent mark stands in front of it, an exponent is split off. -/
theorem splitExponent?_append
    (plain : ∀ character ∈ mantissa, isExponentMark character = false)
    (spells : SpellsExponent tail exponent) :
    splitExponent? (mantissa ++ tail) = some (mantissa, exponent) := by
  have before : ∀ character ∈ mantissa, (!isExponentMark character) = true := by
    intro character member
    rw [plain character member]
    rfl
  unfold splitExponent?
  rw [List.takeWhile_append_of_pos before, List.dropWhile_append_of_pos before]
  cases spells with
  | absent => rw [List.takeWhile_nil, List.dropWhile_nil, List.append_nil]
  | marked marks word =>
      have stops := isExponentMark_iff.mpr marks
      rw [List.takeWhile_cons_of_neg (by simp [stops]),
        List.dropWhile_cons_of_neg (by simp [stops]), List.append_nil]
      dsimp only
      rw [readExponent?_eq_some_iff.mpr word]
      rfl

theorem exists_exponent (read : splitExponent? characters = some (mantissa, exponent)) :
    ∃ tail, SpellsExponent tail exponent ∧ characters = mantissa ++ tail := by
  have parts := List.takeWhile_append_dropWhile (p := fun character => !isExponentMark character)
    (l := characters)
  unfold splitExponent? at read
  split at read
  · next none =>
      cases read
      rw [none, List.append_nil] at parts
      exact ⟨[], .absent, by rw [List.append_nil]; exact parts.symm⟩
  · next mark word found =>
      rw [Option.map_eq_some_iff] at read
      obtain ⟨value, read, same⟩ := read
      cases same
      rw [found] at parts
      have marks : (!isExponentMark mark) = false := by
        have first :=
          List.head?_dropWhile_not (fun character => !isExponentMark character) characters
        rw [found] at first
        exact first
      refine ⟨mark :: word, .marked ?_ (readExponent?_eq_some_iff.mp read), parts.symm⟩
      exact isExponentMark_iff.mp (by simpa using marks)

/-! ## Mantissas -/

theorem splitPoint_of_plain (plain : ∀ character ∈ whole, (character != '.') = true) :
    splitPoint whole = (whole, []) := by
  unfold splitPoint
  rw [List.takeWhile_eq_self_iff.mpr plain, List.dropWhile_eq_nil_iff.mpr plain, List.drop_nil]

theorem splitPoint_append (plain : ∀ character ∈ whole, (character != '.') = true) :
    splitPoint (whole ++ '.' :: fraction) = (whole, fraction) := by
  unfold splitPoint
  rw [List.takeWhile_append_of_pos plain, List.dropWhile_append_of_pos plain]
  simp

theorem Digits.no_point (digits : Digits whole) :
    ∀ character ∈ whole, (character != '.') = true :=
  fun character member => bne_iff_ne.mpr (ne_of_digit (digits character member) (by decide))

/-- A mantissa is split at its point into two runs of digits, not both empty. -/
theorem spellsMantissa_iff : SpellsMantissa mantissa whole fraction ↔
    splitPoint mantissa = (whole, fraction) ∧ (whole ≠ [] ∨ fraction ≠ []) ∧ Digits whole ∧
      Digits fraction := by
  constructor
  · rintro (⟨some, digits⟩ | ⟨some, digits, places⟩)
    · exact ⟨splitPoint_of_plain digits.no_point, .inl some, digits, nofun⟩
    · exact ⟨splitPoint_append digits.no_point, some, digits, places⟩
  · rintro ⟨split, some, digits, places⟩
    have parts := List.takeWhile_append_dropWhile (p := (· != '.')) (l := mantissa)
    unfold splitPoint at split
    cases split
    cases found : mantissa.dropWhile (· != '.') with
    | nil =>
        rw [found, List.append_nil] at parts
        rw [found] at some
        have inhabited := some.resolve_right (not_not_intro rfl)
        rw [parts] at digits inhabited ⊢
        exact .whole inhabited digits
    | cons point fraction =>
        have first := List.head?_dropWhile_not (· != '.') mantissa
        rw [found] at first parts some places
        have point_eq : point = '.' := by simpa using first
        rw [point_eq] at parts
        have spells := SpellsMantissa.point some digits places
        rwa [List.drop_one, List.tail_cons, parts] at spells

/-! ## Literals -/

theorem SpellsMantissa.mem (spells : SpellsMantissa mantissa whole fraction) {character : Char}
    (member : character ∈ mantissa) :
    character = '.' ∨ Radix.isDecimalDigit character = true := by
  cases spells with
  | whole some digits => exact .inr (digits character member)
  | point some digits places =>
      rw [List.mem_append, List.mem_cons] at member
      rcases member with whole | point | fraction
      · exact .inr (digits character whole)
      · exact .inl point
      · exact .inr (places character fraction)

theorem SpellsMantissa.plain (spells : SpellsMantissa mantissa whole fraction) :
    ∀ character ∈ mantissa, isExponentMark character = false := by
  intro character member
  rw [← Bool.not_eq_true, isExponentMark_iff]
  rcases spells.mem member with rfl | digit
  · decide
  · exact fun marks => marks.elim (ne_of_digit digit (by decide)) (ne_of_digit digit (by decide))

theorem SpellsMantissa.ne_nil (spells : SpellsMantissa mantissa whole fraction) :
    mantissa ≠ [] := by
  cases spells with
  | whole some _ => exact some
  | point _ _ _ => exact List.append_ne_nil_of_right_ne_nil _ (List.cons_ne_nil _ _)

/-- No sign opens a mantissa. -/
theorem SpellsMantissa.unsigned (spells : SpellsMantissa mantissa whole fraction)
    (tail : List Char) :
    ∀ character ∈ (mantissa ++ tail).head?, character ≠ '-' ∧ character ≠ '+' := by
  intro character first
  have opens : character ∈ mantissa := by
    obtain ⟨opening, rest, rfl⟩ := List.exists_cons_of_ne_nil spells.ne_nil
    rw [List.cons_append, List.head?_cons, Option.mem_some_iff] at first
    rw [← first]
    exact List.mem_cons_self
  rcases spells.mem opens with rfl | digit
  · decide
  · exact ⟨ne_of_digit digit (by decide), ne_of_digit digit (by decide)⟩

theorem readTrimmed?_eq_some_iff :
    readTrimmed? characters = some literal ↔ Spells characters literal := by
  constructor
  · intro read
    obtain ⟨sign, signed, same⟩ := exists_sign characters
    simp only [readTrimmed?, Option.bind_eq_bind, Option.bind_eq_some_iff, Prod.exists,
      Option.ite_none_right_eq_some, Option.some.injEq, allDigits_iff] at read
    obtain ⟨mantissa, exponent, split, ⟨some, digits, places⟩, rfl⟩ := read
    obtain ⟨tail, scaled, rest⟩ := exists_exponent split
    have parts := Spells.parts signed
      (spellsMantissa_iff.mpr ⟨rfl, some, digits, places⟩) scaled
    rwa [List.append_assoc, ← rest, ← same] at parts
  · rintro ⟨signed, digits, scaled⟩
    obtain ⟨split, some, whole, fraction⟩ := spellsMantissa_iff.mp digits
    unfold readTrimmed?
    rw [List.append_assoc, splitSign_append signed (digits.unsigned _)]
    simp only [splitExponent?_append digits.plain scaled, Option.bind_eq_bind, Option.bind_some,
      split]
    exact if_pos ⟨some, allDigits_iff.mpr whole, allDigits_iff.mpr fraction⟩

/-! ## White space -/

theorem isBlank_of_digit {character : Char} (digit : Radix.isDecimalDigit character = true) :
    Text.isBlank character = false := by
  have range := Radix.toNat_of_digit digit
  simp only [Text.isBlank, Text.blankRanges, List.any_eq_false, List.mem_cons, List.not_mem_nil,
    or_false]
  rintro _ (rfl | rfl | rfl | rfl | rfl | rfl | rfl | rfl | rfl | rfl) <;> simp <;> omega

theorem SpellsSign.solid (spells : SpellsSign sign negative) :
    ∀ character ∈ sign, Text.isBlank character = false := by
  cases spells with
  | absent => exact nofun
  | plus => exact List.forall_mem_singleton.mpr rfl
  | minus => exact List.forall_mem_singleton.mpr rfl

/-- No white space stands within a literal. -/
theorem Spells.solid (spells : Spells characters literal) :
    ∀ character ∈ characters, Text.isBlank character = false := by
  obtain ⟨signed, digits, scaled⟩ := spells
  simp only [List.mem_append]
  rintro character ((first | middle) | last)
  · exact signed.solid character first
  · rcases digits.mem middle with rfl | digit
    · decide
    · exact isBlank_of_digit digit
  · rcases scaled with _ | ⟨marks, ⟨signed, _, digits, _⟩⟩
    · cases last
    · rw [List.mem_cons, List.mem_append] at last
      rcases last with rfl | first | digit
      · rcases marks with rfl | rfl <;> decide
      · exact signed.solid character first
      · exact isBlank_of_digit (digits character digit)

/-- **A text is read exactly as the literal it spells between white space.** -/
theorem read?_eq_some_iff : read? characters = some literal ↔ Written characters literal := by
  constructor
  · intro read
    obtain ⟨before, after, leading, trailing, same⟩ := Text.exists_trimWhile Text.isBlank characters
    rw [same]
    exact .between leading (readTrimmed?_eq_some_iff.mp read) trailing
  · rintro ⟨leading, spells, trailing⟩
    unfold read?
    rw [Text.trimWhile_append leading spells.solid trailing]
    exact readTrimmed?_eq_some_iff.mpr spells

/-- No white space is needed around a literal. -/
theorem Spells.written (spells : Spells characters literal) : Written characters literal := by
  have written := @Written.between [] characters [] literal nofun spells nofun
  rwa [List.nil_append, List.append_nil] at written

/-- Without an exponent, only a fraction that no memory holds leads below the words. -/
theorem fitsWord_shift (short : literal.fraction.length < 2 ^ 63) (none : literal.exponent = 0) :
    Number.FitsWord literal.shift := by
  obtain ⟨dropped, _, same⟩ := Text.exists_dropEndWhile (· == '0') literal.fraction
  have fewer : literal.shortFraction.length ≤ literal.fraction.length := by
    rw [same, List.length_append]
    exact Nat.le_add_right _ _
  unfold shift Number.FitsWord
  rw [none]
  omega

/-- Digits with a plus sign among them are no literal. -/
theorem read?_plus {front back : List Char} (some : front ≠ []) (leading : Digits front)
    (trailing : Digits back) : read? (front ++ '+' :: back) = none := by
  have members : ∀ character ∈ front ++ '+' :: back,
      character = '+' ∨ Radix.isDecimalDigit character = true := by
    intro character member
    rw [List.mem_append, List.mem_cons] at member
    rcases member with digit | plus | digit
    · exact .inr (leading character digit)
    · exact .inl plus
    · exact .inr (trailing character digit)
  have solid : ∀ character ∈ front ++ '+' :: back, Text.isBlank character = false := by
    intro character member
    rcases members character member with rfl | digit
    · decide
    · exact isBlank_of_digit digit
  have unmarked : ∀ character ∈ front ++ '+' :: back, isExponentMark character = false := by
    intro character member
    rw [← Bool.not_eq_true, isExponentMark_iff]
    rcases members character member with rfl | digit
    · decide
    · exact fun marks => marks.elim (ne_of_digit digit (by decide)) (ne_of_digit digit (by decide))
  have pointless : ∀ character ∈ front ++ '+' :: back, (character != '.') = true := by
    intro character member
    rcases members character member with rfl | digit
    · decide
    · exact bne_iff_ne.mpr (ne_of_digit digit (by decide))
  have opens : ∀ character ∈ (front ++ '+' :: back).head?, character ≠ '-' ∧ character ≠ '+' := by
    obtain ⟨first, rest, rfl⟩ := List.exists_cons_of_ne_nil some
    exact leading.unsigned
  have mixed : allDigits (front ++ '+' :: back) = false := by
    rw [← Bool.not_eq_true, allDigits_iff]
    intro digits
    exact absurd (digits '+' (by simp)) (by decide)
  have unsigned := splitSign_append .absent opens
  have whole := splitExponent?_append unmarked .absent
  rw [List.nil_append] at unsigned
  rw [List.append_nil] at whole
  unfold read?
  rw [Text.trimWhile_eq_self solid]
  unfold readTrimmed?
  simp only [unsigned, whole, Option.bind_eq_bind, Option.bind_some,
    splitPoint_of_plain pointless, mixed, Bool.false_eq_true, false_and, and_false, if_false]

end NumberLiteral

end Rego
