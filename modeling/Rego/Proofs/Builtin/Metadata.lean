import Rego.Builtin.Metadata
import Rego.Proofs.Json.Record
import Rego.Proofs.Ty.Writing

/-!
# Declarations read back

The document of a declaration names its fields in the order of the record, each at most once, and
leaves out what is not set; so it is read field by field, and what is left out is read as not set
(`fields?_fields`). The signature goes through the document of its type. The two marks that
only serve evaluation are never written and come back with their usual settings
(`exists_decodeText?_encode`).
-/

namespace Rego

set_option autoImplicit false

namespace Metadata

open Document

variable (metadata : Metadata) (declaration : Document)

/-- The fields of the document of a declaration whose signature has the given document. -/
def fields : List (String × Document) :=
  ("name", .string metadata.name) ::
    (optionalField "description" (metadata.description.map .string) ++
      optionalField "categories"
        (metadata.categories.map fun categories => .array (categories.map .string)) ++
      ("decl", declaration) ::
      (optionalField "infix" (metadata.operator.map .string) ++
        optionalField "relation" (metadata.relation.map .bool) ++
        optionalField "nondeterministic" (metadata.nondeterministic.map .bool)))

/-- The declaration without the marks that only serve evaluation. -/
def unmarked : Metadata := { metadata with deprecated := false, ignoresContext := true }

variable {metadata declaration}

/-! ## Writing -/

theorem toDocument_eq (written : metadata.declaration.toTy.toDocument = .ok declaration) :
    metadata.toDocument = .ok (.object (metadata.fields declaration)) := by
  rw [toDocument, written]
  rfl

theorem keys_optionalField (key : String) (document : Option Document) :
    ((optionalField key document).map Prod.fst).Sublist [key] := by
  cases document with
  | none => exact List.nil_sublist _
  | some document => exact List.Sublist.refl _

/-- The keys are names of fields, in their order. -/
theorem keys_fields : ((metadata.fields declaration).map Prod.fst).Sublist fieldNames := by
  simp only [fields, List.map_cons, List.map_append]
  have front := (keys_optionalField "description" (metadata.description.map .string)).append
    (keys_optionalField "categories"
      (metadata.categories.map fun categories => .array (categories.map .string)))
  have back := ((keys_optionalField "infix" (metadata.operator.map .string)).append
    (keys_optionalField "relation" (metadata.relation.map .bool))).append
      (keys_optionalField "nondeterministic" (metadata.nondeterministic.map .bool))
  exact ((front.append (back.cons_cons "decl")).cons_cons "name").trans
    (List.sublist_append_left _ ["deprecated", "can_skip_bctx"])

theorem nodup_keys_fields : ((metadata.fields declaration).map Prod.fst).Nodup :=
  keys_fields.nodup (by decide)

theorem hasNumerals_optionalField {α : Type} {write : α → Document}
    (each : ∀ value, Json.HasNumerals (write value)) (key : String) (value : Option α) :
    ∀ field ∈ optionalField key (value.map write), Json.HasNumerals field.2 := by
  cases value with
  | none => nofun
  | some value => exact List.forall_mem_singleton.mpr (each value)

theorem hasNumerals_fields (numerals : Json.HasNumerals declaration) :
    Json.HasNumerals (.object (metadata.fields declaration)) := by
  refine Json.fieldsHaveNumerals_iff.mpr ?_
  simp only [fields, List.forall_mem_cons, List.forall_mem_append]
  exact ⟨trivial,
    ⟨hasNumerals_optionalField (fun _ => by trivial) _ _,
      hasNumerals_optionalField Json.hasNumerals_texts _ _⟩,
    numerals,
    ⟨hasNumerals_optionalField (fun _ => by trivial) _ _,
      hasNumerals_optionalField (fun _ => by trivial) _ _⟩,
    hasNumerals_optionalField (fun _ => by trivial) _ _⟩

/-! ## Reading -/

theorem get?_optionalField (name key : String) (document : Option Document) :
    get? name (optionalField key document) = if name = key then document else none := by
  cases document with
  | none => exact (ite_self none).symm
  | some document => rfl

theorem fields?_fields :
    Record.fields? fieldNames (Json.raw (.object (metadata.fields declaration))) =
      some [some (.string (some metadata.name)),
        metadata.description.map fun text => .string (some text),
        metadata.categories.map fun categories => Json.raw (.array (categories.map .string)),
        some (Json.raw declaration),
        metadata.operator.map fun text => .string (some text),
        metadata.relation.map .bool,
        metadata.nondeterministic.map .bool,
        none, none] := by
  rw [Record.fields?_raw nodup_keys_fields]
  simp [fields, fieldNames, get?, get?_append, get?_optionalField, Function.comp_def, Json.raw]

theorem signature?_raw (signature : Signature) (regular : Regular declaration)
    (shallow : declaration.depth < Value.maxDepth)
    (reads : Ty.ofDocument declaration = .ok signature.toTy) :
    signature? (Json.raw declaration) = some signature := by
  rw [signature?, regular.ofRaw?_raw (Nat.le_sub_one_of_lt shallow), Option.map_some, reads]
  rfl

/-- The document of a declaration is read as the declaration, but for the marks. -/
theorem ofDocument?_fields
    (signature : signature? (Json.raw declaration) = some metadata.declaration) :
    ofDocument? (Json.raw (.object (metadata.fields declaration))) = some metadata.unmarked := by
  have text : ∀ text : Option String,
      Record.optional Record.text? (text.map fun text => .string (some text)) = some text :=
    Record.optional_map (fun _ => rfl) nofun
  have texts : ∀ texts : Option (List String), Record.optional Record.texts?
      (texts.map fun texts => Json.raw (.array (texts.map .string))) = some texts :=
    Record.optional_map Record.texts?_raw nofun
  have mark : ∀ mark : Option Bool,
      Record.optional Record.bool? (mark.map .bool) = some mark :=
    Record.optional_map (fun _ => rfl) nofun
  unfold ofDocument?
  simp only [fields?_fields, Option.bind_eq_bind, Option.bind_some, Record.required,
    Record.text?, signature, Record.defaulted, text, texts, mark]
  rfl

/-- The document of a declaration is deeper than that of its signature. -/
theorem depth_lt_depth_fields :
    declaration.depth < Json.depth (.object (metadata.fields declaration)) := by
  have member : ("decl", declaration) ∈ metadata.fields declaration :=
    List.mem_cons_of_mem _ (List.mem_append_right _ List.mem_cons_self)
  exact Nat.lt_succ_of_le (Json.depth_le_fieldsDepth member)

/-- **A declaration whose signature survives has a text, and is read back from it** without the
marks that only serve evaluation, within the depth limit. -/
theorem exists_decodeText?_encode (apart : Ty.NamesApart metadata.declaration.toTy)
    (plain : Ty.PlainKeys metadata.declaration.toTy) :
    ∃ document, metadata.toDocument = .ok document ∧ metadata.encode = .ok document.text ∧
      (document.depth ≤ Value.maxDepth → decodeText? document.text = some metadata.unmarked) := by
  obtain ⟨declaration, written, reads⟩ := Ty.exists_toDocument apart plain
  have regular := Ty.regular_toDocument plain declaration written
  refine ⟨.object (metadata.fields declaration), toDocument_eq written, ?_, fun shallow => ?_⟩
  · rw [encode, toDocument_eq written]
    rfl
  · have signature := signature?_raw metadata.declaration regular
      (Nat.lt_of_lt_of_le depth_lt_depth_fields shallow) reads
    rw [decodeText?, ofBytes?_text (hasNumerals_fields regular.numerals), Option.bind_some,
      ofDocument?_fields signature]

end Metadata

end Rego
