import Rego.Bundle.Manifest
import Rego.Proofs.Json.Ordered
import Rego.Proofs.Json.Record
import Rego.Proofs.Value.RoundTrip

/-!
# Manifests read back

A manifest is written with all its fields, so reading never falls back on what is usual for an
absent one. The roots and the revision are texts and come back as they are, but for an empty list of
roots, which is read as the root of everything; the metadata comes back as an equal value if a
document can hold it faithfully (`exists_decode?_encode`).
-/

namespace Rego

set_option autoImplicit false

/-- A value that documents tell apart from every other one: with ascending members and keys, without
sets, with strings for keys, with finite numbers and nothing undefined, and without an object that
opens like a number in disguise. -/
structure Value.Faithful (value : Value) : Prop where
  formed : value.WellFormed
  plain : Plain value
  encodable : Encodable value
  undisguised : Undisguised value

/-- A faithful value is read back from its document, within the depth limit. -/
theorem Value.Faithful.exists_ofRaw? {value : Value} (faithful : value.Faithful) {limit : Nat}
    (shallow : depth value ≤ limit) :
    ∃ back, ofRaw? limit (Json.raw (document value)) = some back ∧ back.equals value = true := by
  obtain ⟨back, found, same⟩ := ofDocument?_document value faithful.encodable faithful.undisguised
  rw [normal_eq_self value faithful.formed faithful.plain] at same
  refine ⟨back, ?_, same⟩
  rw [ofRaw?, Json.depth_raw, depth_document, if_pos shallow, Json.validate_raw, Option.bind_some,
    found]

namespace LanguageVersion

/-- The number of a version is a numeral. -/
theorem exists_numeral (version : LanguageVersion) :
    ∃ numeral : Numeral, toString version.number = String.ofList numeral.text := by
  refine ⟨Numeral.ofInt version.number, ?_⟩
  rw [Numeral.text_ofInt]
  cases version <;> decide +kernel

theorem read?_number (version : LanguageVersion) :
    read? (.number (toString version.number)) = some version := by
  cases version <;> decide

end LanguageVersion

namespace Manifest

variable (manifest : Manifest)

/-- The fields of the document of a manifest. -/
def fields : List (String × Document) :=
  [("revision", .string manifest.revision),
    ("roots", .array (manifest.roots.map .string)),
    ("rego_version", .number (toString manifest.version.number)),
    ("metadata", Value.document manifest.metadata)]

/-- The roots that are read where these are written. -/
def rootsReadAs (roots : List String) : List String := if roots.isEmpty then [""] else roots

theorem rootsReadAs_of_ne_nil {roots : List String} (listed : roots ≠ []) :
    rootsReadAs roots = roots := by
  rw [rootsReadAs, if_neg fun empty => listed (List.isEmpty_iff.mp empty)]

variable {manifest}

theorem toDocument_eq (encodable : Value.Encodable manifest.metadata) :
    manifest.toDocument = .ok (.object manifest.fields) := by
  rw [toDocument, Value.toDocument_eq _ encodable]
  rfl

theorem hasNumerals_fields (encodable : Value.Encodable manifest.metadata) :
    Json.HasNumerals (.object manifest.fields) :=
  ⟨trivial, Json.hasNumerals_texts manifest.roots, manifest.version.exists_numeral,
    Value.hasNumerals_document _ encodable, trivial⟩

theorem fields?_fields :
    Record.fields? ["revision", "roots", "rego_version", "metadata"]
        (Json.raw (.object manifest.fields)) =
      some [some (.string (some manifest.revision)),
        some (Json.raw (.array (manifest.roots.map .string))),
        some (.number (toString manifest.version.number)),
        some (Json.raw (Value.document manifest.metadata))] := by
  have distinct : (manifest.fields.map Prod.fst).Nodup := by
    change ["revision", "roots", "rego_version", "metadata"].Nodup
    decide
  rw [Record.fields?_raw distinct]
  rfl

/-- The document of a manifest is read as the manifest, with equal metadata. -/
theorem exists_ofDocument?_fields (faithful : manifest.metadata.Faithful)
    (shallow : Value.depth manifest.metadata + 1 ≤ Value.maxDepth) :
    ∃ metadata, ofDocument? (Json.raw (.object manifest.fields)) =
        some { manifest with roots := rootsReadAs manifest.roots, metadata := metadata } ∧
      metadata.equals manifest.metadata = true := by
  obtain ⟨metadata, read, same⟩ := faithful.exists_ofRaw? (Nat.le_sub_one_of_lt shallow)
  refine ⟨metadata, ?_, same⟩
  have roots : roots? (Json.raw (.array (manifest.roots.map .string))) =
      some (rootsReadAs manifest.roots) := by
    rw [roots?, Record.texts?_raw]
    rfl
  unfold ofDocument?
  simp only [fields?_fields, Option.bind_eq_bind, Option.bind_some, Record.defaulted, Record.text?,
    roots, LanguageVersion.read?_number, read, Option.pure_def]

/-- **A manifest with faithful metadata has a text, and is read back from it**, where an empty list
of roots is read as the root of everything. -/
theorem exists_decode?_encode (faithful : manifest.metadata.Faithful)
    (shallow : Value.depth manifest.metadata + 1 ≤ Value.maxDepth) :
    ∃ text back, manifest.encode = .ok text ∧ decode? (Text.bytes text) = some back ∧
      back.equals { manifest with roots := rootsReadAs manifest.roots } = true := by
  obtain ⟨metadata, read, same⟩ := exists_ofDocument?_fields faithful shallow
  refine ⟨Document.indentedText (.object manifest.fields),
    { manifest with roots := rootsReadAs manifest.roots, metadata := metadata }, ?_, ?_, ?_⟩
  · rw [encode, toDocument_eq faithful.encodable]
    rfl
  · rw [decode?, Document.ofBytes?_indentedText (hasNumerals_fields faithful.encodable),
      Option.bind_some, read]
  · simp [equals, same]

end Manifest

end Rego
