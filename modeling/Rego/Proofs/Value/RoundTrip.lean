import Rego.Proofs.Value.Encoding
import Rego.Proofs.Value.Fields

/-!
# Encoded values decode to their normal form

What a document cannot tell apart is settled by the normal form of a value: a set is the array of
its members, a key is the string it is written as, and of two keys with one string the later entry
counts. Encoding a value in either layout and decoding the text gives a value equal to the normal
form (`decode_encode`). A value whose keys are strings and which has no sets is its own normal form
(`normal_eq_self`), so it is given back.
-/

namespace Rego.Value

set_option autoImplicit false

/-! ## Normal forms -/

mutual

/-- The value with arrays for sets and strings for keys. -/
def normal : Value → Value
  | .array items => .array (normalItems items)
  | .object fields => .object (Fields.ofList (normalFields fields))
  | .set members => .array (normalItems members)
  | value => value
termination_by structural value => value

/-- The normal forms of items. -/
def normalItems : List Value → List Value
  | [] => []
  | item :: rest => normal item :: normalItems rest
termination_by structural items => items

/-- The entries with strings for keys and the normal forms of values. -/
def normalFields : List (Value × Value) → List (Value × Value)
  | [] => []
  | (key, value) :: rest => (.string (keyString key), normal value) :: normalFields rest
termination_by structural fields => fields

end

mutual

/-- No sets, and strings for all keys. -/
def Plain : Value → Prop
  | .array items => ItemsPlain items
  | .object fields => FieldsPlain fields
  | .set _ => False
  | _ => True
termination_by structural value => value

/-- Every item is plain. -/
def ItemsPlain : List Value → Prop
  | [] => True
  | item :: rest => Plain item ∧ ItemsPlain rest
termination_by structural items => items

/-- Every key is a string and every field value is plain. -/
def FieldsPlain : List (Value × Value) → Prop
  | [] => True
  | (key, value) :: rest => (∃ text, key = .string text) ∧ Plain value ∧ FieldsPlain rest
termination_by structural fields => fields

end

mutual

/-- A plain value is its own normal form. -/
theorem normal_eq_self : ∀ value : Value, value.WellFormed → Plain value → normal value = value
  | .null, _, _ => rfl
  | .bool _, _, _ => rfl
  | .number _, _, _ => rfl
  | .string _, _, _ => rfl
  | .undefined, _, _ => rfl
  | .array items, formed, plain => congrArg Value.array (normalItems_eq_self items formed plain)
  | .object fields, formed, plain => by
      rw [normal, normalFields_eq_self fields formed.1 plain,
        Fields.ofList_of_ascending formed.2]
  | .set _, _, plain => plain.elim

theorem normalItems_eq_self : ∀ items : List Value, AllWellFormed items → ItemsPlain items →
    normalItems items = items
  | [], _, _ => rfl
  | item :: rest, formed, plain => by
      rw [normalItems, normal_eq_self item formed.1 plain.1,
        normalItems_eq_self rest formed.2 plain.2]

theorem normalFields_eq_self : ∀ fields : List (Value × Value), FieldsWellFormed fields →
    FieldsPlain fields → normalFields fields = fields
  | [], _, _ => rfl
  | (_, value) :: rest, formed, plain => by
      obtain ⟨⟨text, rfl⟩, first, later⟩ := plain
      rw [normalFields, normal_eq_self value formed.2.1 first,
        normalFields_eq_self rest formed.2.2 later]
      rfl

end

/-! ## Numbers in disguise -/

/-- Fields open with a string under the key of numbers in disguise. -/
def OpenDisguised : List (Value × Value) → Prop
  | (.string key, .string _) :: _ => key = Document.numberKey
  | _ => False

mutual

/-- No object, those inside keys apart, opens like a number in disguise. -/
def Undisguised : Value → Prop
  | .array items => ItemsUndisguised items
  | .object fields => ¬OpenDisguised fields ∧ FieldsUndisguised fields
  | .set members => ItemsUndisguised members
  | _ => True
termination_by structural value => value

/-- No item holds an object that opens like a number in disguise. -/
def ItemsUndisguised : List Value → Prop
  | [] => True
  | item :: rest => Undisguised item ∧ ItemsUndisguised rest
termination_by structural items => items

/-- No field value holds an object that opens like a number in disguise. -/
def FieldsUndisguised : List (Value × Value) → Prop
  | [] => True
  | (_, value) :: rest => Undisguised value ∧ FieldsUndisguised rest
termination_by structural fields => fields

end

theorem disguised?_documentFields {fields : List (Value × Value)}
    (known : FieldsEncodable fields) (undisguised : ¬OpenDisguised fields) :
    disguised? (documentFields fields) = none := by
  cases hidden : disguised? (documentFields fields) with
  | none => rfl
  | some literal =>
      exfalso
      cases fields with
      | nil => cases hidden
      | cons field rest =>
          obtain ⟨key, value⟩ := field
          cases value with
          | string text =>
              have opened : (if keyString key = Document.numberKey then
                  some (text, !(documentFields rest).isEmpty) else none) = some literal := hidden
              by_cases same : keyString key = Document.numberKey
              · rw [eq_numberKey_of_keyString known.1 same] at undisguised
                exact undisguised rfl
              · rw [if_neg same] at opened
                cases opened
          | _ => cases hidden

/-! ## Decoding documents of values -/

mutual

/-- The document of a value stands for its normal form. -/
theorem ofDocument?_document : ∀ value : Value, Encodable value → Undisguised value →
    ∃ decoded, ofDocument? (document value) = some decoded ∧
      decoded.equals (normal value) = true
  | .null, _, _ => ⟨_, rfl, rfl⟩
  | .bool value, _, _ => ⟨_, rfl, equals_refl (.bool value)⟩
  | .number value, finite, _ => by
      obtain ⟨numeral, text, few, same⟩ := Number.exists_numeral finite
      refine ⟨.number numeral.value, ?_, equals_iff.mpr same⟩
      rw [document, ofDocument?, text,
        Number.ofText?_numeral (Nat.lt_of_le_of_lt few (by decide : 416 < 2 ^ 63))]
      rfl
  | .string text, _, _ => ⟨_, rfl, equals_refl (.string text)⟩
  | .array items, known, undisguised => by
      obtain ⟨decoded, read, same⟩ := ofItems?_documentItems items known undisguised
      exact ⟨.array decoded, congrArg (Option.map Value.array) read, same⟩
  | .object fields, known, undisguised => by
      obtain ⟨entries, read, same⟩ := ofFields?_documentFields fields known undisguised.2
      refine ⟨.object (Fields.ofList entries), ?_, Fields.equalFields_ofList same⟩
      rw [document, ofDocument?, disguised?_documentFields known undisguised.1, read]
      rfl
  | .set members, known, undisguised => by
      obtain ⟨decoded, read, same⟩ := ofItems?_documentItems members known undisguised
      exact ⟨.array decoded, congrArg (Option.map Value.array) read, same⟩
  | .undefined, known, _ => known.elim

theorem ofItems?_documentItems : ∀ items : List Value, ItemsEncodable items →
    ItemsUndisguised items → ∃ decoded, ofItems? (documentItems items) = some decoded ∧
      equalItems decoded (normalItems items) = true
  | [], _, _ => ⟨[], rfl, rfl⟩
  | item :: rest, known, undisguised => by
      obtain ⟨first, one, same⟩ := ofDocument?_document item known.1 undisguised.1
      obtain ⟨later, two, same'⟩ := ofItems?_documentItems rest known.2 undisguised.2
      refine ⟨first :: later, ?_, ?_⟩
      · rw [documentItems, ofItems?, one, two]
        rfl
      · simp [normalItems, equalItems, same, same']

theorem ofFields?_documentFields : ∀ fields : List (Value × Value), FieldsEncodable fields →
    FieldsUndisguised fields → ∃ entries, ofFields? (documentFields fields) = some entries ∧
      equalFields entries (normalFields fields) = true
  | [], _, _ => ⟨[], rfl, rfl⟩
  | (key, value) :: rest, known, undisguised => by
      obtain ⟨first, one, same⟩ := ofDocument?_document value known.2.1 undisguised.1
      obtain ⟨later, two, same'⟩ := ofFields?_documentFields rest known.2.2 undisguised.2
      refine ⟨(.string (keyString key), first) :: later, ?_, ?_⟩
      · rw [documentFields, ofFields?, one, two]
        rfl
      · simp [normalFields, equalFields, same, same']

end

/-- A text that is read as a document decodes to what the document stands for. -/
theorem decode_of_ofBytes? {bytes : List UInt8} {document : Document} {value : Value}
    (read : Document.ofBytes? bytes = some (Json.raw document))
    (shallow : document.depth ≤ maxDepth) (found : ofDocument? document = some value) :
    decode bytes = .ok value := by
  simp [decode, ofRaw?, read, shallow, found]

/-- **Decoding an encoded value gives its normal form.** Both layouts of an encodable value of
bounded depth decode to one value, which equals the normal form; a well-formed value without sets
and with strings for keys is given back. -/
theorem decode_encode {value : Value} (encodable : Encodable value) (shallow : depth value ≤ 127)
    (undisguised : Undisguised value) :
    ∃ compact indented decoded,
      encode value = .ok compact ∧ decode (Text.bytes compact) = .ok decoded ∧
      encodeIndented value = .ok indented ∧ decodeText indented = .ok decoded ∧
      decoded.equals (normal value) = true ∧
      (value.WellFormed → Plain value → decoded.equals value = true) := by
  obtain ⟨decoded, found, same⟩ := ofDocument?_document value encodable undisguised
  have written := toDocument_eq value encodable
  have numerals := hasNumerals_document value encodable
  have bounded : (document value).depth ≤ maxDepth := by
    rw [depth_document]
    exact shallow
  refine ⟨(document value).text, (document value).indentedText, decoded, ?_, ?_, ?_, ?_, same, ?_⟩
  · rw [encode, written]
    rfl
  · exact decode_of_ofBytes? (Document.ofBytes?_text numerals) bounded found
  · rw [encodeIndented, written]
    rfl
  · exact decode_of_ofBytes? (Document.ofBytes?_indentedText numerals) bounded found
  · intro formed plain
    rwa [normal_eq_self value formed plain] at same

/-- A set, a negative number, and two keys with one text. -/
def collision : Value :=
  .object [(.null, .set [.bool false, .number (.word (-12))]), (.bool true, .array []),
    (.string "true", .object [(.string "\n", .null)])]

/-- The compact text of `collision`, in which a key is repeated. -/
def collisionText : String :=
  "\x7b\"null\":[false,-12],\"true\":[],\"true\":\x7b\"\\n\":null\x7d\x7d"

/-- The later of the entries with one text counts, and a plain part is given back as it is. -/
theorem decode_encode_collision :
    (Encodable collision ∧ depth collision ≤ 127 ∧ Undisguised collision ∧
      ∃ decoded, decode (Text.bytes collisionText) = .ok decoded ∧
        decoded.equals (.object [(.string "null", .array [.bool false, .number (.word (-12))]),
          (.string "true", .object [(.string "\n", .null)])]) = true) ∧
    ∃ decoded, decodeText "\x7b\n  \"\\n\": null\n\x7d" = .ok decoded ∧
      decoded.equals (.object [(.string "\n", .null)]) = true := by
  have encodable : Encodable collision := by
    simp [collision, Encodable, ItemsEncodable, FieldsEncodable, Number.isFinite]
  have shallow : depth collision ≤ 127 := by decide
  have undisguised : Undisguised collision := by
    simp [collision, Undisguised, ItemsUndisguised, FieldsUndisguised, OpenDisguised]
  refine ⟨⟨encodable, shallow, undisguised, ?_⟩, ?_⟩
  · obtain ⟨compact, _, decoded, written, read, _, _, same, _⟩ :=
      decode_encode encodable shallow undisguised
    have text : encode collision = .ok collisionText := by decide +kernel
    rw [text] at written
    cases written
    have form : normal collision =
        .object [(.string "null", .array [.bool false, .number (.word (-12))]),
          (.string "true", .object [(.string "\n", .null)])] := rfl
    exact ⟨decoded, read, form ▸ same⟩
  · have plain : Plain (.object [(.string "\n", .null)]) := ⟨⟨_, rfl⟩, trivial, trivial⟩
    obtain ⟨_, indented, decoded, _, _, written, read, _, back⟩ :=
      @decode_encode (.object [(.string "\n", .null)]) ⟨trivial, trivial, trivial⟩ (by decide)
        ⟨by simp [OpenDisguised], trivial, trivial⟩
    have text : encodeIndented (.object [(.string "\n", .null)]) =
        .ok "\x7b\n  \"\\n\": null\n\x7d" := rfl
    rw [text] at written
    cases written
    exact ⟨decoded, read, back ⟨⟨trivial, trivial, trivial⟩, List.pairwise_singleton _ _⟩ plain⟩

end Rego.Value
