import Rego.Proofs.Value.Encoding

/-!
# Values that are refused

Writing a value fails at the first of its parts that offends, and the error says which part it was:
the undefined value has an error of its own, a number that is not finite is named by its text. Both
layouts of a document fail on the same values with the same error.

A writer fails with a message only. It passes unchanged through the writers of containers and out
of the writer of a key, and what comes out is compared with the wording of the undefined value. The
messages that name a number open differently (`unencodableMessage_ne`), so nothing is mistaken.
-/

namespace Rego

set_option autoImplicit false

namespace ValueError

/-- The message with which a writer fails. -/
def cause : ValueError → String
  | .unencodable number => unencodableMessage number
  | error => error.message

theorem head?_toList_append {opening rest : String} {first : Char}
    (known : opening.toList.head? = some first) :
    (opening ++ rest).toList.head? = some first := by
  rw [String.toList_append, List.head?_append, known, Option.some_or]

theorem unencodableMessage_ne (number : String) :
    unencodableMessage number ≠ undefinedInJson.message := by
  intro same
  have first : (unencodableMessage number).toList.head? = some 'c' :=
    head?_toList_append (by decide)
  rw [same] at first
  exact absurd first (by decide)

end ValueError

namespace Value

/-! ## The first offender -/

/-- The first part, in the order of writing, that has no document on its own account. -/
def firstOffender? (value : Value) : Option Value := value.parts.find? offends

theorem offends_iff {part : Value} :
    offends part = true ↔
      part = .undefined ∨ ∃ number, part = .number number ∧ number.isFinite = false := by
  cases part <;> simp [offends]

/-- What is found offends: it is the undefined value or a number that is not finite. -/
theorem eq_undefined_or_number {value part : Value} (found : value.firstOffender? = some part) :
    part = .undefined ∨ ∃ number, part = .number number ∧ number.isFinite = false :=
  offends_iff.mp (List.find?_some found)

theorem encode_eq_error_iff {value : Value} {error : ValueError} :
    value.encode = .error error ↔
      ∃ part, value.firstOffender? = some part ∧ refusal part = error := by
  rw [encode_eq_outcome, outcome_eq_error_iff, firstOffender?]

theorem encodeIndented_eq_outcome (value : Value) :
    value.encodeIndented = outcome (document value).indentedText value.parts := by
  rw [encodeIndented, toDocument_eq_outcome, map_outcome]

/-! ## Failures of encoding -/

theorem exists_encode_iff_forall {value : Value} :
    (∃ text, value.encode = .ok text) ↔
      ∀ part ∈ value.parts,
        part ≠ .undefined ∧ ∀ number, part = .number number → number.isFinite = true := by
  rw [exists_encode_iff, encodable_iff_parts]
  refine forall₂_congr fun part _ => ?_
  cases part <;> simp [offends]

theorem encode_eq_undefinedInJson_iff {value : Value} :
    value.encode = .error .undefinedInJson ↔ value.firstOffender? = some .undefined := by
  rw [encode_eq_error_iff]
  constructor
  · rintro ⟨part, found, same⟩
    obtain rfl | ⟨number, rfl, _⟩ := eq_undefined_or_number found
    · exact found
    · cases same
  · intro found
    exact ⟨.undefined, found, rfl⟩

/-- Any other error names the number that is the first offender. -/
theorem encode_eq_error_iff_of_ne {value : Value} {error : ValueError}
    (other : error ≠ .undefinedInJson) :
    value.encode = .error error ↔
      ∃ number, value.firstOffender? = some (.number number) ∧
        error = .unencodable number.text := by
  rw [encode_eq_error_iff]
  constructor
  · rintro ⟨part, found, rfl⟩
    obtain rfl | ⟨number, rfl, _⟩ := eq_undefined_or_number found
    · exact absurd rfl other
    · exact ⟨number, found, rfl⟩
  · rintro ⟨number, found, rfl⟩
    exact ⟨.number number, found, rfl⟩

/-- The message of a failure is the wording of the undefined value only when that was refused. -/
theorem cause_eq_iff {value : Value} {error : ValueError} (failed : value.encode = .error error) :
    error.cause = ValueError.undefinedInJson.message ↔ error = .undefinedInJson := by
  obtain ⟨part, found, rfl⟩ := encode_eq_error_iff.mp failed
  obtain rfl | ⟨number, rfl, _⟩ := eq_undefined_or_number found
  · exact iff_of_true rfl rfl
  · exact iff_of_false (ValueError.unencodableMessage_ne _) ValueError.noConfusion

/-- **Encoding fails exactly when it must and says why.** A value has a text in either layout when
every part of it is a value other than the undefined one and every number among them is finite; both
layouts fail with one error. It is the error of the undefined value when the first offender is that
value, else it names the number that is the first offender, and its message tells the two apart. -/
theorem refuses_first_offender (value : Value) :
    ((∃ text, value.encode = .ok text) ↔
      ∀ part ∈ value.parts,
        part ≠ .undefined ∧ ∀ number, part = .number number → number.isFinite = true) ∧
    ((∃ text, value.encodeIndented = .ok text) ↔ ∃ text, value.encode = .ok text) ∧
    (∀ error, value.encodeIndented = .error error ↔ value.encode = .error error) ∧
    (value.encode = .error .undefinedInJson ↔ value.firstOffender? = some .undefined) ∧
    (∀ error, error ≠ .undefinedInJson →
      (value.encode = .error error ↔
        ∃ number, value.firstOffender? = some (.number number) ∧
          error = .unencodable number.text)) ∧
    ∀ error, value.encode = .error error →
      (error.cause = ValueError.undefinedInJson.message ↔ error = .undefinedInJson) := by
  refine ⟨exists_encode_iff_forall, ?_, ?_, encode_eq_undefinedInJson_iff, ?_, ?_⟩
  · simp only [encodeIndented_eq_outcome, encode_eq_outcome, outcome_eq_ok_iff, exists_and_left,
      exists_eq']
  · intro error
    rw [encodeIndented_eq_outcome, encode_eq_outcome, outcome_eq_error_iff, outcome_eq_error_iff]
  · intro error other
    exact encode_eq_error_iff_of_ne other
  · intro error failed
    exact cause_eq_iff failed

/-- An offender inside a key comes before the value under the key. -/
example :
    encode (.object [(.array [.null, .number (.float (.infinite true))], .undefined)]) =
      .error (.unencodable "-inf") := by
  rfl

end Value

end Rego
