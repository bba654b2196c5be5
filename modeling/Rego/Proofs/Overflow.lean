import Rego.Proofs.Builtin.Conversions
import Rego.Proofs.Json.Numbers
import Rego.Proofs.Number.Quantity
import Rego.Proofs.Value.Trouble

/-!
# Shifts beyond the machine words

The reader of number literals subtracts the significant fraction digits from the exponent in a
machine word. An exponent is such a word itself, so the difference is never too large; it is too
small exactly where the exponent is closer to the least word than there are digits to subtract
(`not_fitsWord_shift_iff`), and the reader does not survive this (`overflows_iff`).

Nothing on the way to the reader keeps such a literal from it. Decoding a document reads each of its
number literals (`readable_of_ofDocument?`), whose exponents may be of any size; a literal whose
exponent is no word is refused before the subtraction. A quantity hands over what stands up to its
last digit, with a zero in front of a leading point (`number_eq`). So each of the three ways has its
own exact condition (`overflows_exactly`), and one text overflows on all of them
(`not_all_shifts_fit`). An overflow on the way is an overflow of the whole: such a quantity is not
read (`read_eq_shiftOverflow_iff`), no document with such a literal is decoded (`read_of_decode`),
and for one that is nothing else this is the only thing that can happen
(`decode_number_eq_shiftOverflow_iff`).
-/

namespace Rego

set_option autoImplicit false

open NumberLiteral (Written Spells)
open Number (FitsWord)

/-! ## Literals -/

namespace NumberLiteral

variable {characters : List Char} {literal : NumberLiteral}

/-- The significant fraction digits lead the exponent below the least word. -/
def LeadsBelow (literal : NumberLiteral) : Prop :=
  literal.exponent < -(2 ^ 63) + (literal.shortFraction.length : Int)

instance (literal : NumberLiteral) : Decidable literal.LeadsBelow :=
  inferInstanceAs (Decidable (_ < _))

/-- The exponent of a literal is a machine word. -/
theorem Written.fitsWord_exponent (written : Written characters literal) :
    FitsWord literal.exponent := by
  obtain ⟨_, ⟨_, _, scaled⟩, _⟩ := written
  cases scaled with
  | absent => exact (by decide : FitsWord 0)
  | marked marks spells =>
      cases spells with
      | word _ _ _ fits => exact fits

/-- The shift is never above the words. -/
theorem Written.shift_lt (written : Written characters literal) : literal.shift < 2 ^ 63 := by
  have most := written.fitsWord_exponent.2
  unfold shift
  omega

/-- The shift is below them exactly if the literal leads there. -/
theorem Written.not_fitsWord_shift_iff (written : Written characters literal) :
    ¬FitsWord literal.shift ↔ literal.LeadsBelow := by
  have most := written.shift_lt
  unfold FitsWord LeadsBelow
  unfold shift at most ⊢
  omega

/-- Where no white space stands, a literal is all there is. -/
theorem written_iff_spells (solid : ∀ character ∈ characters, Text.isBlank character = false) :
    Written characters literal ↔ Spells characters literal := by
  rw [← read?_eq_some_iff, read?, Text.trimWhile_eq_self solid, readTrimmed?_eq_some_iff]

end NumberLiteral

namespace Number

variable {text : String}

/-- The reader does not survive the shift of a text. -/
def Overflows (text : String) : Prop := ofText text = .error .shiftOverflow

theorem overflows_iff_of_written {literal : NumberLiteral} (written : Written text.toList literal) :
    Overflows text ↔ literal.LeadsBelow := by
  rw [← written.not_fitsWord_shift_iff, Overflows, ofText_of_written written]
  split <;> simp [*]

/-- **A text overflows exactly if it is a literal that leads below the words.** -/
theorem overflows_iff :
    Overflows text ↔ ∃ literal, Written text.toList literal ∧ literal.LeadsBelow := by
  constructor
  · intro overflows
    have known : ofText text ≠ .error .malformed := by
      rw [overflows]
      exact nofun
    obtain ⟨literal, written⟩ := not_forall_not.mp (mt ofText_eq_malformed_iff.mpr known)
    exact ⟨literal, written, (overflows_iff_of_written written).mp overflows⟩
  · rintro ⟨literal, written, below⟩
    exact (overflows_iff_of_written written).mpr below

theorem ofText?_eq_some_iff {number : Number} :
    ofText? text = some number ↔ ofText text = .ok number := by
  unfold ofText?
  cases ofText text <;> simp [Except.toOption]

end Number

/-! ## Documents -/

/-- A literal of a document overflows exactly if it leads below the words from a word. -/
theorem Json.SpellsLiteral.overflows_iff {text : String} {literal : NumberLiteral}
    (spells : SpellsLiteral text.toList literal) :
    Number.Overflows text ↔ FitsWord literal.exponent ∧ literal.LeadsBelow := by
  by_cases fits : FitsWord literal.exponent
  · rw [Number.overflows_iff_of_written (spells.written fits), and_iff_right fits]
  · have unread : Number.ofText text = .error .malformed := by
      unfold Number.ofText
      rw [spells.unwritten fits]
    rw [Number.Overflows, unread]
    exact ⟨nofun, fun both => absurd both.1 fits⟩

namespace Value

/-- Every text is the literal of a number. -/
def Readable (texts : List String) : Prop :=
  ∀ text ∈ texts, ∃ number, Number.ofText? text = some number

mutual

/-- Decoding a document reads each of its number literals. -/
theorem readable_of_ofDocument? : ∀ (document : Document) {value : Value},
    ofDocument? document = some value → Readable (Json.literals document)
  | .null, _, _ => nofun
  | .bool _, _, _ => nofun
  | .string _, _, _ => nofun
  | .number literal, _, decoded => by
      obtain ⟨number, read, _⟩ := Option.map_eq_some_iff.mp decoded
      exact List.forall_mem_singleton.mpr ⟨number, read⟩
  | .array items, _, decoded => by
      obtain ⟨values, read, _⟩ := Option.map_eq_some_iff.mp decoded
      exact readable_of_ofItems? items read
  | .object fields, _, decoded => by
      unfold ofDocument? at decoded
      split at decoded
      · next hidden found =>
          obtain ⟨literal, more⟩ := hidden
          obtain ⟨rest, rfl, rfl⟩ := disguised?_eq_some found
          cases rest with
          | nil => exact List.forall_mem_nil _
          | cons next later => cases decoded
      · obtain ⟨entries, read, _⟩ := Option.map_eq_some_iff.mp decoded
        exact readable_of_ofFields? fields read

theorem readable_of_ofItems? : ∀ (items : List Document) {values : List Value},
    ofItems? items = some values → Readable (Json.itemLiterals items)
  | [], _, _ => nofun
  | item :: rest, _, decoded => by
      obtain ⟨value, first, decoded⟩ := Option.bind_eq_some_iff.mp decoded
      obtain ⟨values, later, _⟩ := Option.bind_eq_some_iff.mp decoded
      exact List.forall_mem_append.mpr
        ⟨readable_of_ofDocument? item first, readable_of_ofItems? rest later⟩

theorem readable_of_ofFields? : ∀ (fields : List (String × Document))
    {entries : List (Value × Value)}, ofFields? fields = some entries →
      Readable (Json.fieldLiterals fields)
  | [], _, _ => nofun
  | (key, document) :: rest, _, decoded => by
      obtain ⟨value, first, decoded⟩ := Option.bind_eq_some_iff.mp decoded
      obtain ⟨entries, later, _⟩ := Option.bind_eq_some_iff.mp decoded
      exact List.forall_mem_append.mpr
        ⟨readable_of_ofDocument? document first, readable_of_ofFields? rest later⟩

end

variable {bytes : List UInt8} {text : String}

/-- What is decoded is made of literals that are read. -/
theorem read_of_decode {document : Document.Raw} {value : Value}
    (read : Document.ofBytes? bytes = some document) (decoded : decode bytes = .ok value)
    (member : text ∈ Json.literals document) : ∃ number, Number.ofText text = .ok number := by
  obtain ⟨raw, plain, read', _, valid, known⟩ := decode_eq_ok_iff.mp decoded
  obtain rfl := Option.some.inj (read.symm.trans read')
  rw [Json.eq_raw_of_validate document valid, Json.literals_raw] at member
  obtain ⟨number, spelled⟩ := readable_of_ofDocument? plain known text member
  exact ⟨number, Number.ofText?_eq_some_iff.mp spelled⟩

/-- A document that is one literal overflows with it. -/
theorem decode_number_eq_shiftOverflow_iff (read : Document.ofBytes? bytes = some (.number text)) :
    decode bytes = .error .shiftOverflow ↔ Number.Overflows text := by
  rw [decode_eq_shiftOverflow_iff_of_ofBytes? read, trouble?, literalTrouble?, Number.Overflows]
  cases Number.ofText text with
  | ok number => simp
  | error error => cases error <;> simp

end Value

/-! ## Quantities -/

namespace Quantity

/-- A text whose zero before the point is put where it is missing. -/
def withZero : List Char → List Char
  | '.' :: rest => '0' :: '.' :: rest
  | characters => characters

theorem number_eq (characters : List Char) :
    number characters = Number.ofText (String.ofList (withZero characters)) := by
  fun_cases withZero characters with
  | case1 rest => rfl
  | case2 _ other =>
      unfold number
      split
      · exact absurd rfl (other _)
      · rfl

/-- The text that a quantity hands over to be read as a number. -/
def numberText (content : List Char) : List Char := withZero (digits content)

section

variable {characters unit : List Char} (solid : (unquote characters).any Text.isBlank = false)

include solid

/-- A quantity is read as its number and its unit. -/
theorem read_eq_ok_iff {number : Number} :
    read characters = .ok (number, unit) ↔
      Number.ofText (String.ofList (numberText (unquote characters))) = .ok number ∧
        unit = suffix (unquote characters) := by
  rw [numberText, ← number_eq]
  unfold read
  dsimp only
  rw [solid, if_neg Bool.false_ne_true]
  cases Quantity.number (digits (unquote characters)) with
  | ok known => simp [eq_comm]
  | error error => cases error <;> simp

/-- A quantity overflows with its number. -/
theorem read_eq_shiftOverflow_iff :
    read characters = .error .shiftOverflow ↔
      Number.Overflows (String.ofList (numberText (unquote characters))) := by
  rw [Number.Overflows, numberText, ← number_eq]
  unfold read
  dsimp only
  rw [solid, if_neg Bool.false_ne_true]
  cases Quantity.number (digits (unquote characters)) with
  | ok known => simp
  | error error => cases error <;> simp

end

theorem solid_numberText {content : List Char} (solid : content.any Text.isBlank = false) :
    ∀ character ∈ numberText content, Text.isBlank character = false := by
  have taken : ∀ character ∈ digits content, Text.isBlank character = false := by
    intro character member
    exact Bool.eq_false_of_not_eq_true
      (List.any_eq_false.mp solid character (List.mem_of_mem_take member))
  unfold numberText withZero
  split
  · next rest same =>
      rw [same] at taken
      exact List.forall_mem_cons.mpr ⟨by decide, taken⟩
  · exact taken

theorem overflows_numberText_iff {content : List Char}
    (solid : content.any Text.isBlank = false) :
    Number.Overflows (String.ofList (numberText content)) ↔
      ∃ literal, Spells (String.ofList (numberText content)).toList literal ∧
        literal.LeadsBelow := by
  rw [Number.overflows_iff, String.toList_ofList]
  simp only [NumberLiteral.written_iff_spells (solid_numberText solid)]

end Quantity

/-! ## All ways to the reader -/

/-- **Which texts overflow, on every way to the reader.** No shift is above the machine words, and
one is below them exactly if the significant fraction digits lead the exponent there; a text that
stands on its own overflows exactly if it is such a literal. A number literal of a document is
spelled in its text, and overflows exactly if, moreover, its exponent is a word; what is decoded is
made of literals that are read, and a document that is one literal overflows with it. A quantity
without white space overflows exactly if all of what it hands over is such a literal, and is read
exactly if this text is, as its number and its unit. -/
theorem overflows_exactly (text : String) :
    (Number.Overflows text ↔ ∃ literal, Written text.toList literal ∧ literal.LeadsBelow) ∧
    (∀ literal, Written text.toList literal →
      literal.shift < 2 ^ 63 ∧ (¬FitsWord literal.shift ↔ literal.LeadsBelow)) ∧
    (∀ (bytes : List UInt8) (document : Document.Raw), Document.ofBytes? bytes = some document →
      text ∈ Json.literals document →
        (∃ literal, Json.SpellsLiteral text.toList literal ∧
          (Number.Overflows text ↔ FitsWord literal.exponent ∧ literal.LeadsBelow)) ∧
        (∀ value, Value.decode bytes = .ok value → ∃ number, Number.ofText text = .ok number) ∧
        (document = .number text →
          (Value.decode bytes = .error .shiftOverflow ↔ Number.Overflows text))) ∧
    ∀ characters content : List Char, Quantity.unquote characters = content →
      content.any Text.isBlank = false → text = String.ofList (Quantity.numberText content) →
        (Number.Overflows text ↔ ∃ literal, Spells text.toList literal ∧ literal.LeadsBelow) ∧
        (Quantity.read characters = .error .shiftOverflow ↔ Number.Overflows text) ∧
        ∀ (number : Number) (unit : List Char), Quantity.read characters = .ok (number, unit) ↔
          Number.ofText text = .ok number ∧ unit = Quantity.suffix content := by
  refine ⟨Number.overflows_iff, ?_, ?_, ?_⟩
  · intro literal written
    exact ⟨written.shift_lt, written.not_fitsWord_shift_iff⟩
  · intro bytes document read member
    obtain ⟨literal, spells⟩ := Json.spelled_of_ofBytes? read text member
    refine ⟨⟨literal, spells, spells.overflows_iff⟩, ?_, ?_⟩
    · exact fun value decoded => Value.read_of_decode read decoded member
    · rintro rfl
      exact Value.decode_number_eq_shiftOverflow_iff read
  · rintro characters _ rfl solid rfl
    exact ⟨Quantity.overflows_numberText_iff solid, Quantity.read_eq_shiftOverflow_iff solid,
      fun number unit => Quantity.read_eq_ok_iff solid⟩

/-- The literal whose exponent is the least word and whose fraction has one digit. -/
def Number.lowest : String := "0.1e-9223372036854775808"

theorem Number.written_lowest : Written lowest.toList ⟨false, ['0'], ['1'], -(2 ^ 63)⟩ :=
  NumberLiteral.read?_eq_some_iff.mp (by decide)

/-- A shift that is the least word itself; a document and a quantity with literals that lead below
it, and a document and a quantity without. -/
theorem overflows_exactly_samples :
    FitsWord (NumberLiteral.shift ⟨false, ['1'], ['5'], -(2 ^ 63) + 1⟩) ∧
    (∃ literal, Json.SpellsLiteral Number.lowest.toList literal ∧ FitsWord literal.exponent) ∧
    Value.decode (Text.bytes Number.lowest) = .error .shiftOverflow ∧
    (∃ number, Number.ofText "-7" = .ok number) ∧
    Number.Overflows (String.ofList (Quantity.numberText ".5e-9223372036854775808".toList)) ∧
    Quantity.read ".5e-9223372036854775808".toList = .error .shiftOverflow ∧
    ∃ number, Quantity.read "\"12K\"".toList = .ok (number, ['K']) := by
  refine ⟨?_, and_assoc.mp ⟨?_, ?_, and_assoc.mp ⟨?_, ?_⟩⟩⟩
  · have written : Written "1.5e-9223372036854775807".toList
        ⟨false, ['1'], ['5'], -(2 ^ 63) + 1⟩ := NumberLiteral.read?_eq_some_iff.mp (by decide)
    obtain ⟨_, below⟩ := (overflows_exactly "1.5e-9223372036854775807").2.1 _ written
    exact not_not.mp fun outside => absurd (below.mp outside) (by decide)
  · have read : Document.ofBytes? (Text.bytes Number.lowest) = some (.number Number.lowest) := by
      rw [Text.bytes_eq_utf8]
      rfl
    obtain ⟨texts, _, documents, _⟩ := overflows_exactly Number.lowest
    obtain ⟨⟨literal, spells, overflows⟩, _, alone⟩ :=
      documents _ _ read (List.mem_singleton_self _)
    have below := texts.mpr ⟨_, Number.written_lowest, by decide⟩
    exact ⟨⟨literal, spells, (overflows.mp below).1⟩, (alone rfl).mpr below⟩
  · have read : Document.ofBytes? (Text.bytes "[-7]") = some (.array [.number "-7"]) := by
      rw [Text.bytes_eq_utf8]
      rfl
    have known : Value.decode (Text.bytes "[-7]") = .ok (.array [.number (.ofInt (-7))]) := by
      rw [Value.decode, read]
      rfl
    obtain ⟨_, _, documents, _⟩ := overflows_exactly "-7"
    obtain ⟨_, decoded, _⟩ := documents _ _ read (List.mem_singleton_self _)
    exact decoded _ known
  · have spelled : Spells (Quantity.numberText ".5e-9223372036854775808".toList)
        ⟨false, ['0'], ['5'], -(2 ^ 63)⟩ := by
      refine (NumberLiteral.written_iff_spells (Quantity.solid_numberText ?_)).mp
        (NumberLiteral.read?_eq_some_iff.mp (by decide))
      decide
    rw [← String.toList_ofList (l := Quantity.numberText ".5e-9223372036854775808".toList)]
      at spelled
    obtain ⟨_, _, _, quantities⟩ := overflows_exactly
      (String.ofList (Quantity.numberText ".5e-9223372036854775808".toList))
    obtain ⟨overflows, ends, _⟩ :=
      quantities ".5e-9223372036854775808".toList _ rfl (by decide) rfl
    have below := overflows.mpr ⟨_, spelled, by decide⟩
    exact ⟨below, ends.mpr below⟩
  · obtain ⟨_, _, _, quantities⟩ := overflows_exactly "12"
    obtain ⟨_, _, read⟩ := quantities "\"12K\"".toList "12K".toList rfl (by decide) (by decide)
    exact ⟨.ofInt 12, (read (.ofInt 12) ['K']).mpr ⟨by decide, by decide⟩⟩

/-- The lowest literal overflows on its own, as a document and as a quantity. -/
theorem not_all_shifts_fit :
    Number.Overflows Number.lowest ∧
    (∃ document, Document.ofBytes? (Text.bytes Number.lowest) = some document ∧
      Number.lowest ∈ Json.literals document) ∧
    String.ofList (Quantity.numberText (Quantity.unquote Number.lowest.toList)) = Number.lowest ∧
    ¬∀ (text : String) (literal : NumberLiteral), Written text.toList literal →
      FitsWord literal.shift := by
  have below : NumberLiteral.LeadsBelow ⟨false, ['0'], ['1'], -(2 ^ 63)⟩ := by decide
  refine ⟨?_, ?_, by decide, fun all => ?_⟩
  · exact (Number.overflows_iff_of_written Number.written_lowest).mpr below
  · refine ⟨.number Number.lowest, ?_, List.mem_singleton_self _⟩
    rw [Text.bytes_eq_utf8]
    rfl
  · exact Number.written_lowest.not_fitsWord_shift_iff.mpr below (all _ _ Number.written_lowest)

end Rego
