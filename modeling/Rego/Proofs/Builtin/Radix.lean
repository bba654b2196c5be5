import Rego.Proofs.Builtin.Calls
import Rego.Proofs.Builtin.Outcomes
import Rego.Proofs.Builtin.Words
import Rego.Proofs.Number.Literal
import Rego.Proofs.Number.Rounding
import Rego.Proofs.Text.Radix
import Rego.Proofs.Value.RoundTrip

/-!
# Numbers in a radix

A finite number is written in a radix as the integer that it is truncated to, however large that is
(`radixText?_of_trunc`). In radix ten the text is a number literal of this integer and a document of
it, so both readers give the integer back (`ofText_integerText`, `decodeText_integerText`). What
holds of the texts holds of the calls that make and read them (`radix_text_reads_back`).
-/

namespace Rego

set_option autoImplicit false

/-! ## Reading decimal texts -/

/-- **The decimal text of an integer is a literal of it.** -/
theorem Number.ofText_integerText (whole : Int) :
    ofText (String.ofList (Radix.integerText 10 whole)) = .ok (ofInt whole) := by
  have read := (Numeral.ofInt whole).read?_text
  rw [Numeral.text_ofInt] at read
  rw [ofText, String.toList_ofList, read]
  exact congrArg Except.ok (Numeral.value_ofInt whole)

/-- **The decimal text of an integer is a document of it.** -/
theorem Value.decodeText_integerText (whole : Int) :
    decodeText (String.ofList (Radix.integerText 10 whole)) = .ok (.ofInt whole) := by
  have numeral : Json.HasNumerals (.number (String.ofList (Radix.integerText 10 whole))) :=
    ⟨.ofInt whole, by rw [Numeral.text_ofInt]⟩
  have text : Document.text (.number (String.ofList (Radix.integerText 10 whole))) =
      String.ofList (Radix.integerText 10 whole) := by
    rw [Document.text, Json.compact, String.toList_ofList]
  have read := Document.ofBytes?_text numeral
  rw [text] at read
  refine decode_of_ofBytes? read (Nat.zero_le _) ?_
  have short : (Numeral.ofInt whole).places.length < 2 ^ 63 := Nat.two_pow_pos 63
  rw [ofDocument?, ← Numeral.text_ofInt, Number.ofText?_numeral short, Numeral.value_ofInt]
  rfl

/-! ## Writing numbers -/

namespace Number

variable {number : Number} {whole : Int}

/-- A number is written as the integer that it is truncated to. -/
theorem radixText?_of_trunc (radix : Nat) (truncated : number.trunc.Denotes whole) :
    number.radixText? radix = some (String.ofList (Radix.integerText radix whole)) := by
  rw [radixText?, toInt?_eq_some_iff.mpr truncated]
  rfl

theorem exists_trunc (finite : number.isFinite = true) : ∃ whole, number.trunc.Denotes whole := by
  obtain ⟨value, known⟩ := exists_exactValue? finite
  exact ⟨_, Rounding.inward.denotes_roundWith known⟩

theorem radixText?_eq_none_iff {radix : Nat} :
    number.radixText? radix = none ↔ number.isFinite = false := by
  constructor
  · intro unwritten
    by_contra finite
    obtain ⟨whole, truncated⟩ := exists_trunc (Bool.eq_true_of_not_eq_false finite)
    rw [radixText?_of_trunc radix truncated] at unwritten
    cases unwritten
  · intro infinite
    cases number with
    | word _ => cases infinite
    | big _ => cases infinite
    | float value =>
        cases value with
        | notNumber _ _ => rfl
        | infinite _ => rfl
        | finite _ _ => cases infinite

end Number

namespace Builtin.Strings

open Number (ofInt)

/-! ## Calls -/

theorem formatInt_of_denotes {number base : Number} {radix : Nat} {text : String}
    (offered : radix ∈ [2, 8, 10, 16]) (denotes : base.Denotes radix)
    (written : number.radixText? radix = some text) (name : String) :
    formatInt name (.number number) (.number base) = .ok (.string text) := by
  have known : (radix : Int) ∈ ([2, 8, 10, 16] : List Int) ∧ Number.FitsWord radix := by
    simp only [List.mem_cons, List.not_mem_nil, or_false] at offered
    rcases offered with rfl | rfl | rfl | rfl <;> decide
  have read : Argument.integer name (.number base) = .ok (radix : Int) :=
    Argument.integer_of_isWord (Argument.isWord_number_iff.mpr ⟨denotes, known.2⟩) name
  simp only [formatInt, Argument.number, read, bind, Except.bind, if_pos known.1,
    Int.toNat_natCast, written]
  rfl

theorem invoke_formatInt {number base : Number} {radix : Nat} {text : String}
    (offered : radix ∈ [2, 8, 10, 16]) (denotes : base.Denotes radix)
    (written : number.radixText? radix = some text) (context : Context) (strict : Bool)
    (query : Query) :
    Registry.standard.invoke context "format_int" [.number number, .number base] strict query =
      (.ok (.string text), query) := by
  have found : Registry.standard.find? "format_int" = some (binary Declared.formatInt formatInt) :=
    rfl
  have checked : Registry.check "format_int" Declared.formatInt.declaration
      [.number number, .number base] = .ok () := by
    exact Registry.check_ok rfl rfl
  rw [Registry.invoke_plain found checked (by decide)]
  dsimp only
  rw [formatInt_of_denotes offered denotes written]
  rfl

/-- A decimal text of an integer is converted to it. -/
theorem invoke_toNumber (whole : Int) (context : Context) (strict : Bool) (query : Query) :
    Registry.standard.invoke context "to_number"
      [.string (String.ofList (Radix.integerText 10 whole))] strict query =
        (.ok (.ofInt whole), query) := by
  have found : Registry.standard.find? "to_number" =
      some (unary Declared.toNumber Conversions.toNumber) := rfl
  have checked : Registry.check "to_number" Declared.toNumber.declaration
      [.string (String.ofList (Radix.integerText 10 whole))] = .ok () :=
    Registry.check_ok rfl rfl
  have read : Conversions.numberOfText Declared.toNumber.name
      (String.ofList (Radix.integerText 10 whole)) = .ok (ofInt whole) := by
    rw [Conversions.numberOfText, Value.decodeText_integerText]
    rfl
  rw [Registry.invoke_plain found checked (by decide)]
  dsimp only
  rw [Conversions.toNumber, read]
  rfl

/-- **The text of a number in a radix reads back.** A number has a text in a radix unless it is a
NaN or an infinity. The text of a finite number, in any radix up to thirty-six, spells the integer
that the number is truncated to, and no other. In radix ten it is a literal of this integer. Calls
that format a number in one of four radixes give such a text, and the decimal one converts back to
the integer. -/
theorem radix_text_reads_back :
    (∀ (number : Number) (radix : Nat),
      number.radixText? radix = none ↔ number.isFinite = false) ∧
    (∀ (radix : Nat) (text : List Char) (whole other : Int), Radix.Spells radix text whole →
      Radix.Spells radix text other → whole = other) ∧
    ∀ number : Number, number.isFinite = true → ∃ whole, number.trunc.Denotes whole ∧
      (ofInt whole).compare number.trunc = .eq ∧
      (∀ radix, 2 ≤ radix → radix ≤ 36 → ∃ text, number.radixText? radix = some text ∧
        Radix.Spells radix text.toList whole ∧ (text.toList.head? = some '-' ↔ whole < 0)) ∧
      (∀ text, number.radixText? 10 = some text → Number.ofText text = .ok (ofInt whole)) ∧
      ∀ (radix : Nat) (base : Number), radix ∈ [2, 8, 10, 16] → base.Denotes radix →
        ∀ (context : Context) (strict : Bool) (query : Query), ∃ text,
          Registry.standard.invoke context "format_int" [.number number, .number base] strict
            query = (.ok (.string text), query) ∧
          Radix.Spells radix text.toList whole ∧
          (radix = 10 → Registry.standard.invoke context "to_number" [.string text] strict query =
            (.ok (.ofInt whole), query)) := by
  refine ⟨fun number radix => Number.radixText?_eq_none_iff,
    fun radix text whole other one two => one.unique two, ?_⟩
  intro number finite
  obtain ⟨whole, truncated⟩ := Number.exists_trunc finite
  have written : ∀ radix, number.radixText? radix =
      some (String.ofList (Radix.integerText radix whole)) :=
    fun radix => Number.radixText?_of_trunc radix truncated
  have spells : ∀ radix, 2 ≤ radix → radix ≤ 36 →
      Radix.Spells radix (String.ofList (Radix.integerText radix whole)).toList whole := by
    intro radix least most
    rw [String.toList_ofList]
    exact Radix.spells_integerText least most whole
  refine ⟨whole, truncated, ?_, ?_, ?_, ?_⟩
  · exact Number.compare_of_toInt? (Number.toInt?_ofInt whole)
      (Number.toInt?_eq_some_iff.mpr truncated)
  · intro radix least most
    have spelled := spells radix least most
    exact ⟨_, written radix, spelled, spelled.head?_eq_minus_iff⟩
  · intro text same
    obtain rfl := Option.some.inj ((written 10).symm.trans same)
    exact Number.ofText_integerText whole
  · intro radix base offered denotes context strict query
    have bounds : 2 ≤ radix ∧ radix ≤ 36 := by
      simp only [List.mem_cons, List.not_mem_nil, or_false] at offered
      omega
    refine ⟨_, invoke_formatInt offered denotes (written radix) context strict query,
      spells radix bounds.1 bounds.2, ?_⟩
    rintro rfl
    exact invoke_toNumber whole context strict query

/-- A negative double beyond the words goes through two calls unchanged, the base being a double
as well; a fraction is dropped, and the last letter is the last digit of radix thirty-six. -/
theorem radix_text_reads_back_doubles :
    (let context : Context := ⟨none, false, 0⟩
      let query : Query := ⟨[], .cycling [1], []⟩
      ∃ text, Registry.standard.invoke context "format_int"
          [.number (.float (.ofBits 0xC450000000000000)),
            .number (.float (.ofBits 0x4024000000000000))] true query =
            (.ok (.string text), query) ∧
        Registry.standard.invoke context "to_number" [.string text] true query =
          (.ok (.ofInt (-(2 ^ 70))), query)) ∧
    Number.radixText? 36 (.float (.ofBits 0x4041E00000000000)) = some "z" ∧
    Radix.Spells 36 ['z'] 35 := by
  have reads : ∀ {number : Number} {whole : Int}, number.toInt? = some whole →
      number.Denotes whole := Number.toInt?_eq_some_iff.mp
  constructor
  · obtain ⟨whole, truncated, _, _, _, calls⟩ := radix_text_reads_back.2.2
      (.float (.ofBits 0xC450000000000000)) (by decide +kernel)
    obtain rfl : whole = -(2 ^ 70) := truncated.unique (reads (by decide +kernel))
    obtain ⟨text, formatted, _, converted⟩ := calls 10 (.float (.ofBits 0x4024000000000000))
      (by decide) (reads (by decide +kernel)) ⟨none, false, 0⟩ true ⟨[], .cycling [1], []⟩
    exact ⟨text, formatted, converted rfl⟩
  · obtain ⟨whole, truncated, _, texts, _⟩ := radix_text_reads_back.2.2
      (.float (.ofBits 0x4041E00000000000)) (by decide +kernel)
    obtain rfl : whole = 35 := truncated.unique (reads (by decide +kernel))
    obtain ⟨text, written, spells, _⟩ := texts 36 (by decide) (by decide)
    obtain rfl : text = "z" := Option.some.inj (written.symm.trans (by decide +kernel))
    exact ⟨written, spells⟩

end Builtin.Strings

end Rego
