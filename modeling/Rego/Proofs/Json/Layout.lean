import Rego.Proofs.Json.Grammar
import Rego.Json.Writer

/-!
# Both layouts spell the document

The compact and the indented text of a document are made of its tokens, with no white space in the
one and line breaks and blanks in the other (`spells_compact`, `spells_indented`), provided that its
number literals are numerals. So both are read as the document.
-/

namespace Rego

set_option autoImplicit false

namespace Json

open Text

mutual

/-- The number literals of a document are numerals. -/
def HasNumerals : Document → Prop
  | .number literal => ∃ numeral : Numeral, literal = String.ofList numeral.text
  | .array items => ItemsHaveNumerals items
  | .object fields => FieldsHaveNumerals fields
  | _ => True
termination_by structural document => document

/-- The number literals of items are numerals. -/
def ItemsHaveNumerals : List Document → Prop
  | [] => True
  | item :: rest => HasNumerals item ∧ ItemsHaveNumerals rest
termination_by structural items => items

/-- The number literals of field values are numerals. -/
def FieldsHaveNumerals : List (String × Document) → Prop
  | [] => True
  | (_, value) :: rest => HasNumerals value ∧ FieldsHaveNumerals rest
termination_by structural fields => fields

end

theorem blank_nil : Blank [] := nofun

theorem utf8_comma (rest : List Char) : utf8 (',' :: rest) = 0x2c :: utf8 rest := rfl

theorem utf8_colon (rest : List Char) : utf8 (':' :: rest) = 0x3a :: utf8 rest := rfl

/-! ## The compact layout -/

mutual

/-- The compact text of a document spells it. -/
theorem spells_compact : ∀ document : Document, HasNumerals document →
    Spells document (utf8 (compact document))
  | .null, _ => .null
  | .bool true, _ => .yes
  | .bool false, _ => .no
  | .number _, ⟨numeral, rfl⟩ => by
      rw [compact, String.toList_ofList]
      exact .number numeral
  | .string text, _ => .string text
  | .array [], _ => .emptyArray blank_nil
  | .array (item :: rest), known => .array (spellsItems_compact (item :: rest) known nofun)
  | .object [], _ => .emptyObject blank_nil
  | .object (field :: rest), known => .object (spellsFields_compact (field :: rest) known nofun)

theorem spellsItems_compact : ∀ items : List Document, ItemsHaveNumerals items → items ≠ [] →
    SpellsItems items (utf8 (compactItems items))
  | [], _, inhabited => absurd rfl inhabited
  | [item], known, _ => by
      rw [compactItems, utf8_append]
      exact .last blank_nil (spells_compact item known.1) blank_nil
  | item :: next :: rest, known, _ => by
      rw [compactItems, utf8_append]
      · exact .more blank_nil (spells_compact item known.1) blank_nil
          (spellsItems_compact (next :: rest) known.2 nofun)
      · exact nofun

theorem spellsFields_compact : ∀ fields : List (String × Document),
    FieldsHaveNumerals fields → fields ≠ [] → SpellsFields fields (utf8 (compactFields fields))
  | [], _, inhabited => absurd rfl inhabited
  | [(key, value)], known, _ => by
      have field := SpellsField.field key blank_nil blank_nil (spells_compact value known.1)
      have whole := SpellsFields.last blank_nil field blank_nil
      simp only [List.nil_append, List.append_assoc, List.cons_append] at whole
      rw [compactFields, utf8_append, utf8_colon, utf8_append]
      exact whole
  | (key, value) :: next :: rest, known, _ => by
      have field := SpellsField.field key blank_nil blank_nil (spells_compact value known.1)
      have whole := SpellsFields.more blank_nil field blank_nil
        (spellsFields_compact (next :: rest) known.2 nofun)
      simp only [List.nil_append, List.append_assoc, List.cons_append] at whole
      rw [compactFields, utf8_append, utf8_colon, utf8_append, utf8_comma]
      · exact whole
      · exact nofun

end

/-! ## The indented layout -/

theorem blank_newline (level : Nat) : Blank (utf8 (newline level)) := by
  have ascii : ∀ character ∈ newline level, character.toNat < 0x80 := by
    intro character member
    rcases List.mem_cons.mp member with rfl | member
    · decide
    · rw [List.eq_of_mem_replicate member]
      decide
  rw [utf8_of_ascii ascii]
  intro byte member
  obtain ⟨character, known, rfl⟩ := List.mem_map.mp member
  rcases List.mem_cons.mp known with rfl | known
  · decide
  · rw [List.eq_of_mem_replicate known]
    decide

theorem blank_space : Blank [0x20] := List.forall_mem_singleton.mpr rfl

mutual

/-- The indented text of a document spells it. -/
theorem spells_indented : ∀ (level : Nat) (document : Document), HasNumerals document →
    Spells document (utf8 (indented level document))
  | _, .null, _ => .null
  | _, .bool true, _ => .yes
  | _, .bool false, _ => .no
  | _, .number _, ⟨numeral, rfl⟩ => by
      rw [indented, String.toList_ofList]
      exact .number numeral
  | _, .string text, _ => .string text
  | _, .array [], _ => .emptyArray blank_nil
  | level, .array (item :: rest), known => by
      have body := spellsItems_indented level rest known.2 (blank_newline (level + 1))
        (spells_indented (level + 1) item known.1)
      rw [indented, utf8_cons, utf8_append, utf8_append, List.append_assoc]
      exact .array body
  | _, .object [], _ => .emptyObject blank_nil
  | level, .object ((key, value) :: rest), known => by
      have field := SpellsField.field key blank_nil blank_space
        (spells_indented (level + 1) value known.1)
      have body := spellsFields_indented level rest known.2 (blank_newline (level + 1)) field
      simp only [List.nil_append, List.append_assoc, List.cons_append] at body
      rw [indented, utf8_cons, utf8_append, utf8_append, utf8_colon, utf8_cons, utf8_append,
        List.append_assoc]
      exact .object body

/-- An item and the text of those after it. -/
theorem spellsItems_indented : ∀ (level : Nat) (rest : List Document), ItemsHaveNumerals rest →
    ∀ {item : Document} {before text : List UInt8}, Blank before → Spells item text →
      SpellsItems (item :: rest) (before ++ (text ++ utf8 (indentedItems level rest)))
  | level, [], _, _, _, _, blank, spelled => by
      rw [indentedItems, utf8_append]
      exact .last blank spelled (blank_newline level)
  | level, next :: rest, known, _, _, _, blank, spelled => by
      have later := spellsItems_indented level rest known.2 (blank_newline (level + 1))
        (spells_indented (level + 1) next known.1)
      rw [indentedItems, utf8_comma, utf8_append, utf8_append, List.append_assoc]
      exact .more blank spelled blank_nil later

/-- A field and the text of those after it. -/
theorem spellsFields_indented : ∀ (level : Nat) (rest : List (String × Document)),
    FieldsHaveNumerals rest →
    ∀ {field : String × Document} {before text : List UInt8}, Blank before →
      SpellsField field text →
      SpellsFields (field :: rest) (before ++ (text ++ utf8 (indentedFields level rest)))
  | level, [], _, _, _, _, blank, spelled => by
      rw [indentedFields, utf8_append]
      exact .last blank spelled (blank_newline level)
  | level, (key, value) :: rest, known, _, _, _, blank, spelled => by
      have field := SpellsField.field key blank_nil blank_space
        (spells_indented (level + 1) value known.1)
      have later := spellsFields_indented level rest known.2 (blank_newline (level + 1)) field
      simp only [List.nil_append, List.append_assoc, List.cons_append] at later
      rw [indentedFields, utf8_comma, utf8_append, utf8_append, utf8_colon, utf8_cons,
        utf8_append, List.append_assoc]
      exact .more blank spelled blank_nil later

end

end Json

/-! ## Reading what was written -/

namespace Document

/-- The compact text of a document is read as the document. -/
theorem ofBytes?_text {document : Document} (known : Json.HasNumerals document) :
    ofBytes? (Text.bytes document.text) = some (Json.raw document) := by
  have read := ofBytes?_of_spells Json.blank_nil (Json.spells_compact document known)
    Json.blank_nil
  rw [List.nil_append, List.append_nil] at read
  rw [text, Text.bytes_ofList]
  exact read

/-- The indented text of a document is read as the document. -/
theorem ofBytes?_indentedText {document : Document} (known : Json.HasNumerals document) :
    ofBytes? (Text.bytes document.indentedText) = some (Json.raw document) := by
  have read := ofBytes?_of_spells Json.blank_nil (Json.spells_indented 0 document known)
    Json.blank_nil
  rw [List.nil_append, List.append_nil] at read
  rw [indentedText, Text.bytes_ofList]
  exact read

end Document

end Rego
