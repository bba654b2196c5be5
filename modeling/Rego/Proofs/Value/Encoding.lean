import Rego.Proofs.Json.Layout
import Rego.Proofs.Number.Text
import Rego.Value.Json

/-!
# Documents of encodable values

A value is encodable when neither the undefined value nor a number that is not finite stands
anywhere in it, its keys included. These values, and no others, have a document (`toDocument_eq`,
`exists_encode_iff`), whose number literals are numerals and whose containers nest as deep as those
of the value. A key that is no string is written as a text that does not open like a string, so it
is never taken for the key of a number in disguise.

What writing gives is read off the list of a value's `parts` in the order of writing: the first one
that offends is refused, at whatever depth it stands (`toDocument_eq_outcome`).
-/

namespace Rego.Value

set_option autoImplicit false

/-! ## Encodable values -/

mutual

/-- Neither undefined nor infinite parts, keys included. -/
def Encodable : Value → Prop
  | .number value => value.isFinite = true
  | .array items => ItemsEncodable items
  | .object fields => FieldsEncodable fields
  | .set members => ItemsEncodable members
  | .undefined => False
  | _ => True
termination_by structural value => value

/-- Every item is encodable. -/
def ItemsEncodable : List Value → Prop
  | [] => True
  | item :: rest => Encodable item ∧ ItemsEncodable rest
termination_by structural items => items

/-- Every key and every field value is encodable. -/
def FieldsEncodable : List (Value × Value) → Prop
  | [] => True
  | (key, value) :: rest => Encodable key ∧ Encodable value ∧ FieldsEncodable rest
termination_by structural fields => fields

end

mutual

/-- How deep containers nest, those inside keys not counted. -/
def depth : Value → Nat
  | .array items => itemsDepth items + 1
  | .object fields => fieldsDepth fields + 1
  | .set members => itemsDepth members + 1
  | _ => 0
termination_by structural value => value

/-- The greatest depth among items. -/
def itemsDepth : List Value → Nat
  | [] => 0
  | item :: rest => max (depth item) (itemsDepth rest)
termination_by structural items => items

/-- The greatest depth among field values. -/
def fieldsDepth : List (Value × Value) → Nat
  | [] => 0
  | (_, value) :: rest => max (depth value) (fieldsDepth rest)
termination_by structural fields => fields

end

/-! ## The document of a value -/

/-- The string that a key becomes: a string is itself, any other key its compact text. -/
def keyString : Value → String
  | .string text => text
  | key => key.encode.toOption.getD ""

mutual

/-- The document of a value; the undefined value, which has none, is given the null document. -/
def document : Value → Document
  | .null => .null
  | .bool value => .bool value
  | .number value => .number value.plainText
  | .string text => .string text
  | .array items => .array (documentItems items)
  | .object fields => .object (documentFields fields)
  | .set members => .array (documentItems members)
  | .undefined => .null
termination_by structural value => value

/-- The documents of items. -/
def documentItems : List Value → List Document
  | [] => []
  | item :: rest => document item :: documentItems rest
termination_by structural items => items

/-- The document fields of fields. -/
def documentFields : List (Value × Value) → List (String × Document)
  | [] => []
  | (key, value) :: rest => (keyString key, document value) :: documentFields rest
termination_by structural fields => fields

end

theorem keyText_eq_encode {key : Value} (other : key.kind ≠ .string) :
    keyText key = encode key := by
  cases key with
  | string text => exact absurd rfl other
  | number value =>
      unfold keyText encode toDocument
      split <;> rfl
  | array items =>
      unfold keyText encode toDocument
      cases toItems items <;> rfl
  | object fields =>
      unfold keyText encode toDocument
      cases toFields fields <;> rfl
  | set members =>
      unfold keyText encode toDocument
      cases toItems members <;> rfl
  | _ => rfl

theorem keyString_eq {key : Value} (other : key.kind ≠ .string) {document : Document}
    (written : toDocument key = .ok document) : keyString key = document.text := by
  have encoded : encode key = .ok document.text := by rw [encode, written]; rfl
  cases key with
  | string text => exact absurd rfl other
  | _ => exact congrArg (fun text => text.toOption.getD "") encoded

/-! ## The part that is refused -/

mutual

/-- The parts of a value in the order in which they are written: the value itself, then the parts
of its items, or those of each key before those of the value under it. -/
def parts : Value → List Value
  | .array items => .array items :: itemParts items
  | .object fields => .object fields :: fieldParts fields
  | .set members => .set members :: itemParts members
  | value => [value]
termination_by structural value => value

/-- The parts of items. -/
def itemParts : List Value → List Value
  | [] => []
  | item :: rest => parts item ++ itemParts rest
termination_by structural items => items

/-- The parts of keys and of the values under them. -/
def fieldParts : List (Value × Value) → List Value
  | [] => []
  | (key, value) :: rest => parts key ++ (parts value ++ fieldParts rest)
termination_by structural fields => fields

end

/-- Whether a value has no document on its own account. -/
def offends : Value → Bool
  | .number value => !value.isFinite
  | .undefined => true
  | _ => false

/-- The error with which a part that offends is refused. -/
def refusal : Value → ValueError
  | .number value => .unencodable value.text
  | _ => .undefinedInJson

/-- What writing these parts gives: the first of them that offends is refused. -/
def outcome {α : Type} (written : α) (parts : List Value) : Except ValueError α :=
  match parts.find? offends with
  | none => .ok written
  | some part => .error (refusal part)

theorem map_outcome {α β : Type} (f : α → β) (written : α) (parts : List Value) :
    (outcome written parts).map f = outcome (f written) parts := by
  unfold outcome
  cases parts.find? offends <;> rfl

theorem bind_outcome {α β : Type} {next : α → Except ValueError β} {first : α} {written : β}
    (front : List Value) {back : List Value} (later : next first = outcome written back) :
    (outcome first front >>= next) = outcome written (front ++ back) := by
  unfold outcome at later ⊢
  rw [List.find?_append]
  cases front.find? offends with
  | none => exact later
  | some part => rfl

theorem outcome_eq_ok_iff {α : Type} {written found : α} {parts : List Value} :
    outcome written parts = .ok found ↔ parts.find? offends = none ∧ written = found := by
  unfold outcome
  cases parts.find? offends <;> simp

theorem outcome_eq_error_iff {α : Type} {written : α} {error : ValueError} {parts : List Value} :
    outcome written parts = .error error ↔
      ∃ part, parts.find? offends = some part ∧ refusal part = error := by
  unfold outcome
  cases parts.find? offends <;> simp

/-- A key that is no string is refused for the part for which its document is refused. -/
theorem keyText_eq_outcome {key : Value}
    (written : toDocument key = outcome (document key) key.parts) :
    keyText key = outcome (keyString key) key.parts := by
  by_cases string : key.kind = .string
  · cases key with
    | string text => rfl
    | _ => cases string
  · rw [keyText_eq_encode string, encode, written, map_outcome]
    unfold outcome at written ⊢
    cases first : key.parts.find? offends with
    | none =>
        rw [first] at written
        exact congrArg Except.ok (keyString_eq string written).symm
    | some part => rfl

mutual

/-- **Writing refuses the first part that offends**, and gives the document when none does. -/
theorem toDocument_eq_outcome : ∀ value : Value,
    toDocument value = outcome (document value) value.parts
  | .null => rfl
  | .bool _ => rfl
  | .number value => by
      unfold toDocument
      by_cases finite : value.isFinite = true <;>
        simp [finite, outcome, parts, offends, refusal, document]
  | .string _ => rfl
  | .array items => by
      rw [toDocument, toItems_eq_outcome items]
      exact map_outcome Json.array _ _
  | .object fields => by
      rw [toDocument, toFields_eq_outcome fields]
      exact map_outcome Json.object _ _
  | .set members => by
      rw [toDocument, toItems_eq_outcome members]
      exact map_outcome Json.array _ _
  | .undefined => rfl

theorem toItems_eq_outcome : ∀ items : List Value,
    toItems items = outcome (documentItems items) (itemParts items)
  | [] => rfl
  | item :: rest => by
      rw [toItems, toDocument_eq_outcome item, toItems_eq_outcome rest]
      exact bind_outcome _ (map_outcome _ _ _)

theorem toFields_eq_outcome : ∀ fields : List (Value × Value),
    toFields fields = outcome (documentFields fields) (fieldParts fields)
  | [] => rfl
  | (key, value) :: rest => by
      rw [toFields, keyText_eq_outcome (toDocument_eq_outcome key), toDocument_eq_outcome value,
        toFields_eq_outcome rest]
      exact bind_outcome _ (bind_outcome _ (map_outcome _ _ _))

end

mutual

/-- A value is encodable when none of its parts offends. -/
theorem encodable_iff_parts : ∀ value : Value,
    Encodable value ↔ ∀ part ∈ value.parts, offends part = false
  | .null => by simp [Encodable, parts, offends]
  | .bool _ => by simp [Encodable, parts, offends]
  | .number _ => by simp [Encodable, parts, offends]
  | .string _ => by simp [Encodable, parts, offends]
  | .array items => by simp [Encodable, parts, offends, itemsEncodable_iff_parts items]
  | .object fields => by simp [Encodable, parts, offends, fieldsEncodable_iff_parts fields]
  | .set members => by simp [Encodable, parts, offends, itemsEncodable_iff_parts members]
  | .undefined => by simp [Encodable, parts, offends]

theorem itemsEncodable_iff_parts : ∀ items : List Value,
    ItemsEncodable items ↔ ∀ part ∈ itemParts items, offends part = false
  | [] => by simp [ItemsEncodable, itemParts]
  | item :: rest => by
      simp only [ItemsEncodable, itemParts, List.forall_mem_append, encodable_iff_parts item,
        itemsEncodable_iff_parts rest]

theorem fieldsEncodable_iff_parts : ∀ fields : List (Value × Value),
    FieldsEncodable fields ↔ ∀ part ∈ fieldParts fields, offends part = false
  | [] => by simp [FieldsEncodable, fieldParts]
  | (key, value) :: rest => by
      simp only [FieldsEncodable, fieldParts, List.forall_mem_append, encodable_iff_parts key,
        encodable_iff_parts value, fieldsEncodable_iff_parts rest]

end

/-- No part of an encodable value offends. -/
theorem find?_offends_eq_none_iff {value : Value} :
    value.parts.find? offends = none ↔ Encodable value := by
  simp [encodable_iff_parts, List.find?_eq_none]

/-- **Encodable values have a document.** -/
theorem toDocument_eq (value : Value) (known : Encodable value) :
    toDocument value = .ok (document value) := by
  rw [toDocument_eq_outcome, outcome, find?_offends_eq_none_iff.mpr known]

theorem encode_eq_outcome (value : Value) :
    encode value = outcome (document value).text value.parts := by
  rw [encode, toDocument_eq_outcome, map_outcome]

theorem encode_of_encodable {value : Value} (known : Encodable value) :
    encode value = .ok (document value).text := by
  rw [encode, toDocument_eq value known]
  rfl

/-- **A value has an encoding exactly when it is encodable.** -/
theorem exists_encode_iff {value : Value} :
    (∃ text, encode value = .ok text) ↔ Encodable value := by
  constructor
  · rintro ⟨text, written⟩
    rw [encode_eq_outcome, outcome_eq_ok_iff] at written
    exact find?_offends_eq_none_iff.mp written.1
  · intro known
    exact ⟨_, encode_of_encodable known⟩

/-! ## Depth and numerals -/

mutual

@[simp] theorem depth_document : ∀ value : Value, (document value).depth = depth value
  | .null => rfl
  | .bool _ => rfl
  | .number _ => rfl
  | .string _ => rfl
  | .array items => congrArg (· + 1) (itemsDepth_documentItems items)
  | .object fields => congrArg (· + 1) (fieldsDepth_documentFields fields)
  | .set members => congrArg (· + 1) (itemsDepth_documentItems members)
  | .undefined => rfl

theorem itemsDepth_documentItems : ∀ items : List Value,
    Json.itemsDepth (documentItems items) = itemsDepth items
  | [] => rfl
  | item :: rest => by
      rw [documentItems, Json.itemsDepth, itemsDepth, depth_document item,
        itemsDepth_documentItems rest]

theorem fieldsDepth_documentFields : ∀ fields : List (Value × Value),
    Json.fieldsDepth (documentFields fields) = fieldsDepth fields
  | [] => rfl
  | (key, value) :: rest => by
      rw [documentFields, Json.fieldsDepth, fieldsDepth, depth_document value,
        fieldsDepth_documentFields rest]

end

mutual

theorem hasNumerals_document : ∀ value : Value, Encodable value → (document value).HasNumerals
  | .null, _ => trivial
  | .bool _, _ => trivial
  | .number value, finite => by
      obtain ⟨numeral, same, _⟩ := Number.exists_numeral finite
      exact ⟨numeral, same⟩
  | .string _, _ => trivial
  | .array items, known => itemsHaveNumerals_documentItems items known
  | .object fields, known => fieldsHaveNumerals_documentFields fields known
  | .set members, known => itemsHaveNumerals_documentItems members known
  | .undefined, known => known.elim

theorem itemsHaveNumerals_documentItems : ∀ items : List Value, ItemsEncodable items →
    Json.ItemsHaveNumerals (documentItems items)
  | [], _ => trivial
  | item :: rest, known =>
      ⟨hasNumerals_document item known.1, itemsHaveNumerals_documentItems rest known.2⟩

theorem fieldsHaveNumerals_documentFields : ∀ fields : List (Value × Value),
    FieldsEncodable fields → Json.FieldsHaveNumerals (documentFields fields)
  | [], _ => trivial
  | (_, value) :: rest, known =>
      ⟨hasNumerals_document value known.2.1, fieldsHaveNumerals_documentFields rest known.2.2⟩

end

/-! ## Keys in disguise -/

/-- Only the document of a string is a string document. -/
theorem eq_string_of_document_eq {value : Value} {text : String}
    (same : document value = .string text) : value = .string text := by
  cases value <;> cases same
  rfl

/-- A document that is no string is not written with a dollar sign in front. -/
theorem head?_compact_ne {document : Document} (known : document.HasNumerals)
    (other : ∀ text, document ≠ .string text) : document.compact.head? ≠ some '$' := by
  cases document with
  | string text => exact absurd rfl (other text)
  | number literal =>
      obtain ⟨numeral, rfl⟩ := known
      obtain ⟨first, rest, same, range⟩ := numeral.exists_text_eq_cons
      rw [Json.compact, String.toList_ofList, same, List.head?_cons]
      rintro ⟨rfl⟩
      exact absurd range (by decide)
  | bool value => cases value <;> decide
  | null => decide
  | array items =>
      rw [Json.compact, List.head?_cons]
      decide
  | object fields =>
      rw [Json.compact, List.head?_cons]
      decide

/-- A key that becomes the key of numbers in disguise is that string. -/
theorem eq_numberKey_of_keyString {key : Value} (known : Encodable key)
    (same : keyString key = Document.numberKey) : key = .string Document.numberKey := by
  by_cases string : key.kind = .string
  · cases key with
    | string text => exact congrArg Value.string same
    | _ => cases string
  · rw [keyString_eq string (toDocument_eq key known)] at same
    have other : ∀ text, document key ≠ .string text := by
      intro text equal
      rw [eq_string_of_document_eq equal] at string
      exact string rfl
    refine absurd ?_ (head?_compact_ne (hasNumerals_document key known) other)
    have letters := congrArg String.toList same
    rw [Document.text, String.toList_ofList] at letters
    rw [letters]
    rfl

end Rego.Value
