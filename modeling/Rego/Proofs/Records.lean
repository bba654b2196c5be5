import Rego.Proofs.Builtin.Metadata
import Rego.Proofs.Bundle.Manifest

/-!
# Records survive writing and reading

A manifest holds a value of the author's choice and the declaration of a builtin a signature; both
are written in documents of their own, one level below the record. Whatever the texts in a record,
and whichever fields are left out, reading the text that is written gives the record back, but for
what the records themselves make usual: the roots of a manifest that lists none, and the two marks
of a declaration that are not written (`records_read_back`).
-/

namespace Rego

set_option autoImplicit false

/-- **Records survive writing and reading.** A manifest whose metadata documents hold faithfully is
read back as an equal manifest, with the root of everything in place of an empty list of roots. A
declaration in whose signature no name stands directly around another and all property keys are
plain is read back without its two marks. -/
theorem records_read_back :
    (∀ manifest : Manifest, manifest.metadata.Faithful →
      Value.depth manifest.metadata + 1 ≤ Value.maxDepth →
        ∃ text back, manifest.encode = .ok text ∧ Manifest.decode? (Text.bytes text) = some back ∧
          (manifest.roots ≠ [] → back.equals manifest = true) ∧
          (manifest.roots = [] → back.equals { manifest with roots := [""] } = true)) ∧
    ∀ metadata : Metadata, Ty.NamesApart metadata.declaration.toTy →
      Ty.PlainKeys metadata.declaration.toTy →
        ∃ document, metadata.toDocument = .ok document ∧ metadata.encode = .ok document.text ∧
          (document.depth ≤ Value.maxDepth → Metadata.decodeText? document.text =
            some { metadata with deprecated := false, ignoresContext := true }) := by
  constructor
  · intro manifest faithful shallow
    obtain ⟨text, back, written, read, same⟩ :=
      Manifest.exists_decode?_encode faithful shallow
    refine ⟨text, back, written, read, fun listed => ?_, fun unlisted => ?_⟩
    · rwa [Manifest.rootsReadAs_of_ne_nil listed] at same
    · rwa [unlisted] at same
  · intro metadata apart plain
    exact metadata.exists_decodeText?_encode apart plain

/-- A manifest with awkward texts, and with metadata of every plain kind. -/
def Manifest.crowded : Manifest where
  revision := "\u0000\"é"
  roots := ["a/b", "", "a/b"]
  version := .zero
  metadata := .object [(.string "", .array [.null, .bool true, .string "\n"]),
    (.string "~", .object [(.string "n", .number (.word (-12)))])]

/-- A declaration with some of its fields, with both marks the unusual way, and with a named type in
its signature. -/
def Metadata.crowded : Metadata where
  name := "a.\"b\""
  categories := some []
  declaration :=
    ⟨[.named "x" (some "a row") (.object [(.string "k", .number), (.null, .any [])] none)],
      some .boolean, some .string⟩
  relation := some false
  deprecated := true
  ignoresContext := false

theorem Manifest.faithful_crowded : Value.Faithful Manifest.crowded.metadata where
  formed := by
    refine ⟨⟨trivial, ?_, trivial, ?_, trivial⟩, ?_⟩
    · exact ⟨trivial, trivial, trivial, trivial⟩
    · exact ⟨⟨trivial, trivial, trivial⟩, List.pairwise_singleton _ _⟩
    · exact List.pairwise_pair.mpr (by decide +kernel)
  plain := ⟨⟨_, rfl⟩, ⟨trivial, trivial, trivial, trivial⟩, ⟨_, rfl⟩,
    ⟨⟨_, rfl⟩, trivial, trivial⟩, trivial⟩
  encodable := by
    simp [crowded, Value.Encodable, Value.ItemsEncodable, Value.FieldsEncodable, Number.isFinite]
  undisguised := by
    simp [crowded, Value.Undisguised, Value.ItemsUndisguised, Value.FieldsUndisguised,
      Value.OpenDisguised]

/-- The crowded manifest is read back, with and without roots, and so is the crowded declaration. -/
theorem records_read_back_crowded :
    (∃ text back, Manifest.crowded.encode = .ok text ∧
      Manifest.decode? (Text.bytes text) = some back ∧ back.equals Manifest.crowded = true) ∧
    (∃ text back, { Manifest.crowded with roots := [] }.encode = .ok text ∧
      Manifest.decode? (Text.bytes text) = some back ∧
        back.equals { Manifest.crowded with roots := [""] } = true) ∧
    ∃ text, Metadata.crowded.encode = .ok text ∧ Metadata.decodeText? text =
      some { Metadata.crowded with deprecated := false, ignoresContext := true } := by
  refine ⟨?_, ?_, ?_⟩
  · obtain ⟨text, back, written, read, same, _⟩ :=
      records_read_back.1 Manifest.crowded Manifest.faithful_crowded (by decide)
    exact ⟨text, back, written, read, same nofun⟩
  · obtain ⟨text, back, written, read, _, same⟩ :=
      records_read_back.1 { Manifest.crowded with roots := [] } Manifest.faithful_crowded
        (by decide)
    exact ⟨text, back, written, read, same rfl⟩
  · obtain ⟨document, written, encoded, read⟩ :=
      records_read_back.2 Metadata.crowded (by decide) (by decide)
    have depth : Metadata.crowded.toDocument.map Json.depth = .ok 7 := rfl
    rw [written] at depth
    exact ⟨document.text, encoded, read (by rw [Except.ok.inj depth]; decide)⟩

end Rego
