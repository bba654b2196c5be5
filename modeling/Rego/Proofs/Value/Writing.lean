import Rego.Proofs.Value.Encoding
import Rego.Proofs.Value.Fields

/-!
# Equal values are written alike

Equal values may hold one number in different representations, at any depth and inside keys. A
number of integral value is written with the digits of that integer, whatever its representation,
and a number without one has no other representation (`toDocument_number_congr`). So equal values
have the same document, or fail with the same error (`toDocument_congr`), and both layouts agree
(`encode_congr`).
-/

namespace Rego

set_option autoImplicit false

theorem Number.isFinite_of_toInt? {number : Number} {whole : Int}
    (integral : number.toInt? = some whole) : number.isFinite = true := by
  cases number with
  | word value => rfl
  | big value => rfl
  | float value =>
      cases value with
      | notNumber negative payload => cases integral
      | infinite negative => cases integral
      | finite negative rank => rfl

namespace Value

/-- A number of integral value has the document of that integer's digits. -/
theorem toDocument_of_toInt? {number : Number} {whole : Int}
    (integral : number.toInt? = some whole) :
    toDocument (.number number) =
      .ok (.number (String.ofList (Radix.integerText 10 whole))) := by
  rw [toDocument, if_pos (Number.isFinite_of_toInt? integral), Number.plainText, integral]

/-- Equal numbers have the same document, or the same error. -/
theorem toDocument_number_congr {left right : Number} (same : left.compare right = .eq) :
    toDocument (.number left) = toDocument (.number right) := by
  rcases Number.whole_or_same same with ⟨whole, one, two⟩ | ⟨_, rfl⟩
  · rw [toDocument_of_toInt? one, toDocument_of_toInt? two]
  · rfl

/-- Equal keys with the same document have the same text. -/
theorem keyText_congr {left right : Value} (same : left.equals right = true)
    (documents : left.toDocument = right.toDocument) : keyText left = keyText right := by
  have kinds := kind_eq_of_equals same
  by_cases string : left.kind = .string
  · rw [string] at kinds
    cases left <;> cases string
    cases right <;> cases kinds
    exact congrArg (fun text => Except.ok text) (beq_iff_eq.mp same)
  · rw [keyText_eq_encode string, keyText_eq_encode (kinds ▸ string), encode, encode, documents]

mutual

/-- **Equal values have the same document, or the same error.** -/
theorem toDocument_congr : ∀ left right : Value, left.equals right = true →
    left.toDocument = right.toDocument
  | .null, right, same => by
      cases right with
      | null => rfl
      | _ => cases same
  | .bool payload, right, same => by
      cases right with
      | bool other => rw [beq_iff_eq.mp same]
      | _ => cases same
  | .number payload, right, same => by
      cases right with
      | number other => exact toDocument_number_congr (equals_iff.mp same)
      | _ => cases same
  | .string payload, right, same => by
      cases right with
      | string other => rw [beq_iff_eq.mp same]
      | _ => cases same
  | .array items, right, same => by
      cases right with
      | array others => rw [toDocument, toDocument, toItems_congr items others same]
      | _ => cases same
  | .object fields, right, same => by
      cases right with
      | object others => rw [toDocument, toDocument, toFields_congr fields others same]
      | _ => cases same
  | .set members, right, same => by
      cases right with
      | set others => rw [toDocument, toDocument, toItems_congr members others same]
      | _ => cases same
  | .undefined, right, same => by
      cases right with
      | undefined => rfl
      | _ => cases same

theorem toItems_congr : ∀ left right : List Value, equalItems left right = true →
    toItems left = toItems right
  | [], [], _ => rfl
  | item :: rest, other :: others, same => by
      obtain ⟨first, later⟩ := Bool.and_eq_true_iff.mp same
      rw [toItems, toItems, toDocument_congr item other first, toItems_congr rest others later]

theorem toFields_congr : ∀ left right : List (Value × Value), equalFields left right = true →
    toFields left = toFields right
  | [], [], _ => rfl
  | (key, value) :: rest, (key', value') :: others, same => by
      simp only [equalFields, Bool.and_eq_true] at same
      obtain ⟨⟨keys, values⟩, rests⟩ := same
      rw [toFields, toFields, keyText_congr keys (toDocument_congr key key' keys),
        toDocument_congr value value' values, toFields_congr rest others rests]

end

/-- **Equal values are written alike.** In either layout they have the same text, or fail with the
same error. -/
theorem encode_congr {left right : Value} (same : left.equals right = true) :
    left.encode = right.encode ∧ left.encodeIndented = right.encodeIndented := by
  have documents := toDocument_congr left right same
  exact ⟨congrArg (Except.map Document.text) documents,
    congrArg (Except.map Document.indentedText) documents⟩

/-- Whole doubles, one beyond the words and one the negative zero, at two depths and in a key. -/
def wholeDoubles : Value :=
  .object [(.set [.number (.float (.ofBits 0x3FF0000000000000))],
    .array [.number (.float (.ofBits 0x44B52D02C7E14AF6)), .number (.float (.signedZero true))])]

/-- The integers that stand in the same places. -/
def sameIntegers : Value :=
  .object [(.set [.ofInt 1], .array [.ofInt 99999999999999991611392, .ofInt 0])]

/-- Whole doubles are written with the digits of the integers they are. -/
theorem encode_congr_representations :
    wholeDoubles.equals sameIntegers = true ∧
      wholeDoubles.encode = .ok "\x7b\"[1]\":[99999999999999991611392,0]\x7d" ∧
      wholeDoubles.encodeIndented = sameIntegers.encodeIndented := by
  have same : wholeDoubles.equals sameIntegers = true := by decide +kernel
  obtain ⟨compact, indented⟩ := encode_congr same
  refine ⟨same, compact.trans ?_, indented⟩
  decide +kernel

end Value

end Rego
