import Rego.Builtin.Registry
import Rego.Proofs.Builtin.Calls
import Rego.Proofs.Json.Literals
import Rego.Proofs.Number.Literal
import Rego.Proofs.Value.Trouble

/-!
# Texts converted to numbers

A conversion decodes a text as a document and takes the number it finds. Two kinds of documents are
numbers: number literals, and objects that hold a number in disguise and nothing else
(`decodeText_eq_number_iff`). A literal of a document is a number literal if its exponent is a
machine word (`written`), and is none otherwise (`unwritten`).

So, apart from numbers in disguise and from texts that end the program, a text is converted exactly
if it is such a literal between white space, and then to the number that the literal is read as on
its own. All other texts are refused (`converts_number_literals`).
-/

namespace Rego

set_option autoImplicit false

namespace Json

open Text NumberLiteral

variable {minus whole fraction places text : List Char} {literal : NumberLiteral}

/-! ## Literals as numbers -/

theorem isBlank_of_isPlain {character : Char} (plain : IsPlain character) :
    Text.isBlank character = false := by
  obtain ⟨least, most⟩ := plain
  simp only [Text.isBlank, Text.blankRanges, List.any_eq_false, List.mem_cons, List.not_mem_nil,
    or_false]
  rintro _ (rfl | rfl | rfl | rfl | rfl | rfl | rfl | rfl | rfl | rfl) <;> simp <;> omega

/-- The exponent of a literal is split off if it is read. -/
theorem splitExponent?_marked {mantissa word : List Char} {mark : Char}
    (unmarked : ∀ character ∈ mantissa, isExponentMark character = false) (marks : IsMark mark) :
    splitExponent? (mantissa ++ mark :: word) =
      (readExponent? word).map fun value => (mantissa, value) := by
  have before : ∀ character ∈ mantissa, (!isExponentMark character) = true := by
    intro character member
    rw [unmarked character member]
    rfl
  have stops := isExponentMark_iff.mpr marks
  unfold splitExponent?
  rw [List.takeWhile_append_of_pos before, List.dropWhile_append_of_pos before,
    List.takeWhile_cons_of_neg (by simp [stops]), List.dropWhile_cons_of_neg (by simp [stops]),
    List.append_nil]

theorem SpellsMinus.spellsSign {negative : Bool} (spells : SpellsMinus minus negative) :
    SpellsSign minus negative := by
  cases spells with
  | absent => exact .absent
  | minus => exact .minus

theorem SpellsFraction.spellsMantissa (spells : SpellsFraction fraction places)
    (digits : SpellsWhole whole) : SpellsMantissa (whole ++ fraction) whole places := by
  cases spells with
  | absent =>
      rw [List.append_nil]
      exact .whole digits.inhabited digits.digits
  | point inhabited digital => exact .point (.inl digits.inhabited) digits.digits digital

/-- **A literal of a document is a number literal if its exponent is a machine word.** -/
theorem SpellsLiteral.written (spells : SpellsLiteral text literal)
    (fits : Number.FitsWord literal.exponent) : Written text literal := by
  obtain @⟨minus, whole, fraction, places, scale, negative, exponent, signed, digits, pointed,
    scaled⟩ := spells
  have exponential : SpellsExponent scale exponent := by
    cases scaled with
    | absent => exact .absent
    | marked marks signed inhabited digital =>
        exact .marked marks (.word signed inhabited digital fits)
  have parts := NumberLiteral.Spells.parts signed.spellsSign (pointed.spellsMantissa digits)
    exponential
  rw [← List.append_assoc] at parts
  exact parts.written

/-- **Otherwise it is none.** -/
theorem SpellsLiteral.unwritten (spells : SpellsLiteral text literal)
    (outside : ¬Number.FitsWord literal.exponent) : read? text = none := by
  have solid : ∀ character ∈ text, Text.isBlank character = false :=
    fun character member => isBlank_of_isPlain (spells.plain character member)
  unfold read?
  rw [trimWhile_eq_self solid]
  obtain @⟨minus, whole, fraction, places, scale, negative, exponent, signed, digits, pointed,
    scaled⟩ := spells
  have mantissa := pointed.spellsMantissa digits
  cases scaled with
  | absent => exact absurd (by decide : Number.FitsWord 0) outside
  | @marked mark sign power raised marks raises inhabited digital =>
      have unread : readExponent? (sign ++ power) = none := by
        unfold readExponent?
        rw [splitSign_append raises digital.unsigned]
        exact if_neg fun read => outside read.2.2
      unfold readTrimmed?
      rw [List.append_assoc minus, List.append_assoc minus,
        splitSign_append signed.spellsSign (mantissa.unsigned _)]
      simp only [splitExponent?_marked mantissa.plain marks, unread, Option.map_none,
        Option.bind_eq_bind, Option.bind_none]

end Json

/-! ## Decoded numbers -/

/-- A text of an object that holds a number in disguise and nothing else. -/
def Document.Disguises (text literal : String) : Prop :=
  Document.ofBytes? (Text.bytes text) =
    some (.object [(some Document.numberKey, .string (some literal))])

namespace Value

variable {text : String} {number : Number}

/-- A number in disguise is the string under the first key. -/
theorem disguised?_eq_some {fields : List (String × Document)} {literal : String} {more : Bool}
    (hidden : disguised? fields = some (literal, more)) :
    ∃ rest, fields = (Document.numberKey, .string literal) :: rest ∧ more = !rest.isEmpty := by
  unfold disguised? at hidden
  split at hidden
  · next key text rest =>
      simp only [Option.ite_none_right_eq_some, Option.some.injEq, Prod.mk.injEq] at hidden
      obtain ⟨rfl, rfl, rfl⟩ := hidden
      exact ⟨rest, rfl, rfl⟩
  · cases hidden

/-- A document that stands for a number is one, or holds one in disguise. -/
theorem ofDocument?_eq_number_iff {document : Document} :
    ofDocument? document = some (.number number) ↔
      ∃ literal, Number.ofText? literal = some number ∧
        (document = .number literal ∨
          document = .object [(Document.numberKey, .string literal)]) := by
  constructor
  · intro read
    cases document with
    | null => cases read
    | bool value => cases read
    | string text => cases read
    | number literal =>
        obtain ⟨known, spelled, same⟩ := Option.map_eq_some_iff.mp read
        cases same
        exact ⟨literal, spelled, .inl rfl⟩
    | array items =>
        obtain ⟨_, _, same⟩ := Option.map_eq_some_iff.mp read
        cases same
    | object fields =>
        unfold ofDocument? at read
        split at read
        · next hidden found =>
            obtain ⟨literal, more⟩ := hidden
            obtain ⟨rest, rfl, rfl⟩ := disguised?_eq_some found
            cases rest with
            | cons next later => cases read
            | nil =>
                obtain ⟨known, spelled, same⟩ := Option.map_eq_some_iff.mp read
                cases same
                exact ⟨literal, spelled, .inr rfl⟩
        · obtain ⟨_, _, same⟩ := Option.map_eq_some_iff.mp read
          cases same
  · rintro ⟨literal, spelled, rfl | rfl⟩
    · rw [ofDocument?, spelled]
      rfl
    · have found : disguised? [(Document.numberKey, .string literal)] = some (literal, false) := by
        rw [disguised?, if_pos rfl]
        rfl
      rw [ofDocument?, found]
      dsimp only
      rw [ofDisguised?, spelled]
      rfl

/-- **Numbers come from literals and from numbers in disguise.** -/
theorem decodeText_eq_number_iff : decodeText text = .ok (.number number) ↔
    (∃ literal, Json.SpellsLiteral (Json.stripped text.toList) literal) ∧
        Number.ofText? (String.ofList (Json.stripped text.toList)) = some number ∨
      ∃ literal, Document.Disguises text literal ∧ Number.ofText? literal = some number := by
  unfold decodeText
  rw [decode_eq_ok_iff]
  constructor
  · rintro ⟨raw, document, read, _, valid, stands⟩
    obtain rfl := Json.eq_raw_of_validate raw valid
    obtain ⟨literal, spelled, rfl | rfl⟩ := ofDocument?_eq_number_iff.mp stands
    · obtain ⟨rfl, spells⟩ := Document.ofBytes?_eq_number_iff.mp read
      exact .inl ⟨spells, spelled⟩
    · exact .inr ⟨literal, read, spelled⟩
  · rintro (⟨spells, spelled⟩ | ⟨literal, read, spelled⟩)
    · exact ⟨_, _, Document.ofBytes?_eq_number_iff.mpr ⟨rfl, spells⟩, Nat.zero_le _, rfl,
        ofDocument?_eq_number_iff.mpr ⟨_, spelled, .inl rfl⟩⟩
    · have shallow : 1 ≤ maxDepth := by decide
      exact ⟨_, _, read, shallow, rfl,
        ofDocument?_eq_number_iff.mpr ⟨literal, spelled, .inr rfl⟩⟩

end Value

namespace Builtin.Conversions

variable {text : String} {number : Number}

/-- A call converts a text to a number. -/
def Converts (text : String) (number : Number) : Prop :=
  ∀ (context : Context) (strict : Bool) (query : Query),
    Registry.standard.invoke context "to_number" [.string text] strict query =
      (.ok (.number number), query)

/-- A call refuses a text with an ordinary failure. -/
def Refuses (text : String) : Prop :=
  ∀ (context : Context) (strict : Bool) (query : Query),
    Registry.standard.invoke context "to_number" [.string text] strict query =
      (Registry.settle context strict (failed "to_number" (.notNumberText text)), query)

/-! ## Calls -/

theorem invoke_text (text : String) (context : Context) (strict : Bool) (query : Query) :
    Registry.standard.invoke context "to_number" [.string text] strict query =
      (Registry.settle context strict (toNumber "to_number" (.string text)), query) := by
  have found : Registry.standard.find? "to_number" =
      some (unary Declared.toNumber toNumber) := rfl
  have checked : Registry.check "to_number" Declared.toNumber.declaration [.string text] =
      .ok () := Registry.check_ok rfl rfl
  rw [Registry.invoke_plain found checked (by decide)]
  rfl

theorem converts_of_decodeText (read : Value.decodeText text = .ok (.number number)) :
    Converts text number := by
  intro context strict query
  rw [invoke_text, toNumber, numberOfText, read]
  rfl

theorem refuses_of_decodeText (unread : ∀ number, Value.decodeText text ≠ .ok (.number number))
    (counted : Value.decodeText text ≠ .error .shiftOverflow) : Refuses text := by
  have refused : numberOfText "to_number" text = failed "to_number" (.notNumberText text) := by
    unfold numberOfText
    split
    · next number read => exact absurd read (unread number)
    · next beyond => exact absurd beyond counted
    · rfl
  intro context strict query
  rw [invoke_text, toNumber, refused]
  rfl

/-- A call that converts a text does not refuse it. -/
theorem Converts.not_refuses (converts : Converts text number) : ¬Refuses text := by
  intro refuses
  have both := (converts ⟨none, false, 0⟩ true ⟨[], .cycling [1], []⟩).symm.trans
    (refuses ⟨none, false, 0⟩ true ⟨[], .cycling [1], []⟩)
  cases both

theorem Converts.unique {other : Number} (one : Converts text number)
    (two : Converts text other) : number = other := by
  have both := (one ⟨none, false, 0⟩ true ⟨[], .cycling [1], []⟩).symm.trans
    (two ⟨none, false, 0⟩ true ⟨[], .cycling [1], []⟩)
  cases both
  rfl

/-! ## Literals -/

variable {literal : NumberLiteral}

/-- A literal whose exponent and shift are machine words is converted to the number it is read
as. -/
theorem converts_literal (spells : Json.SpellsLiteral (Json.stripped text.toList) literal)
    (fits : Number.FitsWord literal.exponent) (counted : Number.FitsWord literal.shift) :
    Number.ofText (String.ofList (Json.stripped text.toList)) = .ok literal.value ∧
      Converts text literal.value := by
  have written : NumberLiteral.Written
      (String.ofList (Json.stripped text.toList)).toList literal := by
    rw [String.toList_ofList]
    exact spells.written fits
  have read : Number.ofText (String.ofList (Json.stripped text.toList)) = .ok literal.value := by
    rw [Number.ofText_of_written written, if_pos counted]
  refine ⟨read, converts_of_decodeText (Value.decodeText_eq_number_iff.mpr (.inl ?_))⟩
  refine ⟨⟨literal, spells⟩, ?_⟩
  rw [Number.ofText?, read]
  rfl

/-- A literal whose exponent is a machine word and whose shift is none ends the program. -/
theorem decodeText_of_outside (spells : Json.SpellsLiteral (Json.stripped text.toList) literal)
    (fits : Number.FitsWord literal.exponent) (outside : ¬Number.FitsWord literal.shift) :
    Value.decodeText text = .error .shiftOverflow := by
  have written := spells.written fits
  rw [← String.toList_ofList (l := Json.stripped text.toList)] at written
  have read := Document.ofBytes?_eq_number_iff.mpr ⟨rfl, literal, spells⟩
  refine (Value.decode_eq_shiftOverflow_iff_of_ofBytes? read).mpr ?_
  rw [Value.trouble?, Value.literalTrouble?, Number.ofText_of_written written, if_neg outside]

/-- A text without such a literal and without a number in disguise is refused, unless it ends the
program. -/
theorem refuses_of_no_literal (undisguised : ∀ hidden, ¬Document.Disguises text hidden)
    (counted : Value.decodeText text ≠ .error .shiftOverflow)
    (outside : ∀ literal, Json.SpellsLiteral (Json.stripped text.toList) literal →
      ¬Number.FitsWord literal.exponent) : Refuses text := by
  refine refuses_of_decodeText (fun number read => ?_) counted
  rcases Value.decodeText_eq_number_iff.mp read with ⟨⟨literal, spells⟩, known⟩ | ⟨hidden, is, _⟩
  · rw [Number.ofText?, Number.ofText, String.toList_ofList,
      spells.unwritten (outside literal spells)] at known
    cases known
  · exact undisguised hidden is

/-- **Texts are converted as the number literals that they are.** Let a text be no number in
disguise, and let decoding it not end the program over a shift beyond the machine words. It is
converted exactly if, without white space around it, it is a number literal of a document with an
exponent that is a machine word. It is then converted to the number that the literal is read as.
Every other text is refused with an ordinary failure, and so are the texts of documents that are no
numbers. -/
theorem converts_number_literals (text : String)
    (undisguised : ∀ hidden, ¬Document.Disguises text hidden)
    (counted : Value.decodeText text ≠ .error .shiftOverflow) :
    ((∃ number, Converts text number) ↔
      ∃ literal, Json.SpellsLiteral (Json.stripped text.toList) literal ∧
        Number.FitsWord literal.exponent) ∧
    (∀ number, Converts text number →
      Number.ofText (String.ofList (Json.stripped text.toList)) = .ok number) ∧
    ((∀ number, ¬Converts text number) → Refuses text) ∧
    ∀ document, Document.ofBytes? (Text.bytes text) = some document →
      (∀ name, document ≠ .number name) → Refuses text := by
  by_cases spelled : ∃ literal, Json.SpellsLiteral (Json.stripped text.toList) literal ∧
      Number.FitsWord literal.exponent
  · obtain ⟨literal, spells, fits⟩ := spelled
    have shifted : Number.FitsWord literal.shift := by
      by_contra outside
      exact counted (decodeText_of_outside spells fits outside)
    obtain ⟨read, converts⟩ := converts_literal spells fits shifted
    refine ⟨⟨fun _ => ⟨literal, spells, fits⟩, fun _ => ⟨literal.value, converts⟩⟩, ?_, ?_, ?_⟩
    · intro number again
      rw [read, converts.unique again]
    · exact fun unconverted => absurd converts (unconverted literal.value)
    · intro document found other
      have number := Document.ofBytes?_eq_number_iff.mpr ⟨rfl, literal, spells⟩
      exact absurd (Option.some.inj (found.symm.trans number)) (other _)
  · have refuses := refuses_of_no_literal undisguised counted
      fun literal spells fits => spelled ⟨literal, spells, fits⟩
    exact ⟨⟨fun ⟨_, converts⟩ => absurd refuses converts.not_refuses,
      fun literal => absurd literal spelled⟩,
      fun _ converts => absurd refuses converts.not_refuses, fun _ => refuses,
      fun _ _ _ => refuses⟩

/-- A negative literal with all parts between white space, and a list that holds a literal. -/
theorem converts_number_literals_samples :
    (∃ number, Converts " -1.5e1\t" number ∧ Number.ofText "-1.5e1" = .ok number) ∧
    Refuses "[1]" := by
  constructor
  · have core : String.ofList (Json.stripped " -1.5e1\t".toList) = "-1.5e1" := by decide
    have spells : Json.SpellsLiteral (Json.stripped " -1.5e1\t".toList)
        ⟨true, ['1'], ['5'], 1⟩ := by
      have scaled : Json.SpellsScale ['e', '1'] 1 :=
        @Json.SpellsScale.marked 'e' [] ['1'] false (.inl rfl) .absent (by decide)
          (NumberLiteral.allDigits_iff.mp rfl)
      exact @Json.SpellsLiteral.parts ['-'] ['1'] ['.', '5'] ['5'] ['e', '1'] true 1 .minus
        ⟨by decide, NumberLiteral.allDigits_iff.mp rfl, by decide⟩
        (.point (by decide) (NumberLiteral.allDigits_iff.mp rfl)) scaled
    have read := Document.ofBytes?_eq_number_iff.mpr ⟨rfl, _, spells⟩
    have undisguised : ∀ hidden, ¬Document.Disguises " -1.5e1\t" hidden := by
      intro hidden is
      cases Option.some.inj (read.symm.trans is)
    have counted : Value.decodeText " -1.5e1\t" ≠ .error .shiftOverflow :=
      mt (Value.decode_eq_shiftOverflow_iff_of_ofBytes? read).mp (by decide)
    obtain ⟨converts, same, _⟩ := converts_number_literals " -1.5e1\t" undisguised counted
    obtain ⟨number, converts⟩ := converts.mpr ⟨_, spells, by decide⟩
    have known := same number converts
    rw [core] at known
    exact ⟨number, converts, known⟩
  · have read : Document.ofBytes? (Text.bytes "[1]") = some (.array [.number "1"]) := by
      rw [Text.bytes_eq_utf8]
      rfl
    have undisguised : ∀ hidden, ¬Document.Disguises "[1]" hidden := by
      intro hidden is
      cases Option.some.inj (read.symm.trans is)
    have counted : Value.decodeText "[1]" ≠ .error .shiftOverflow :=
      mt (Value.decode_eq_shiftOverflow_iff_of_ofBytes? read).mp (by decide)
    exact (converts_number_literals "[1]" undisguised counted).2.2.2 _ read nofun

/-- A literal of a document whose exponent is no machine word is refused. -/
theorem not_all_literals_convert :
    Refuses "1e-9223372036854775809" ∧
    ¬∀ text : String, (∃ number, Converts text number) ↔
      ∃ literal, Json.SpellsLiteral (Json.stripped text.toList) literal := by
  have spells : Json.SpellsLiteral (Json.stripped "1e-9223372036854775809".toList)
      ⟨false, ['1'], [], -9223372036854775809⟩ := by
    have scaled : Json.SpellsScale "e-9223372036854775809".toList (-9223372036854775809) :=
      @Json.SpellsScale.marked 'e' ['-'] "9223372036854775809".toList true (.inl rfl) .minus
        (by decide) (NumberLiteral.allDigits_iff.mp rfl)
    exact @Json.SpellsLiteral.parts [] ['1'] [] [] "e-9223372036854775809".toList false _ .absent
      ⟨by decide, NumberLiteral.allDigits_iff.mp rfl, by decide⟩ .absent scaled
  have unread : Number.ofText? "1e-9223372036854775809" = none := by decide
  have read := Document.ofBytes?_eq_number_iff.mpr ⟨rfl, _, spells⟩
  have refuses : Refuses "1e-9223372036854775809" := by
    have counted : Value.decodeText "1e-9223372036854775809" ≠ .error .shiftOverflow :=
      mt (Value.decode_eq_shiftOverflow_iff_of_ofBytes? read).mp (by decide)
    refine refuses_of_decodeText (fun number known => ?_) counted
    rcases Value.decodeText_eq_number_iff.mp known with ⟨_, same⟩ | ⟨hidden, is, _⟩
    · cases unread.symm.trans same
    · cases Option.some.inj (read.symm.trans is)
  refine ⟨refuses, fun all => ?_⟩
  obtain ⟨number, converts⟩ := (all _).mpr ⟨_, spells⟩
  exact converts.not_refuses refuses

end Builtin.Conversions

end Rego
