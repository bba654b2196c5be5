import Rego.Proofs.Json.Literals

/-!
# The number literals of a document

A document keeps its number literals as they are written (`literals`). The reader makes one only of
characters that spell one: whatever it takes is a leaf without literals, a literal, or a container
of what it takes under a smaller bound (`readValue_cases`, `readItems_cases`, `readFields_cases`),
and so, by induction on the bound, every literal of what is read from a text is spelled in it
(`spelled_of_ofBytes?`).
-/

namespace Rego.Json

set_option autoImplicit false

variable {τ : Type}

mutual

/-- The number literals of a document, from first to last. -/
def literals : Json τ → List String
  | .number literal => [literal]
  | .array items => itemLiterals items
  | .object fields => fieldLiterals fields
  | _ => []
termination_by structural document => document

/-- The number literals of items. -/
def itemLiterals : List (Json τ) → List String
  | [] => []
  | item :: rest => literals item ++ itemLiterals rest
termination_by structural items => items

/-- The number literals of field values. -/
def fieldLiterals : List (τ × Json τ) → List String
  | [] => []
  | (_, value) :: rest => literals value ++ fieldLiterals rest
termination_by structural fields => fields

end

/-- A text that spells a number literal. -/
def Spelled (text : String) : Prop := ∃ literal, SpellsLiteral text.toList literal

/-! ## What the reader takes -/

section Reader

variable {bound : Nat} {input tail : List UInt8}

theorem readValue_cases {document : Document.Raw}
    (read : readValue (bound + 1) input = some (document, tail)) :
    literals document = [] ∨ (∃ text, Spelled text ∧ document = .number text) ∨
      (∃ rest items, readItems bound rest = some (items, tail) ∧ document = .array items) ∨
      ∃ rest fields, readFields bound rest = some (fields, tail) ∧ document = .object fields := by
  rw [readValue] at read
  split at read
  · cases read
  · next byte rest _ =>
      split at read
      · exact .inl (by rw [readWord_eq_some read]; rfl)
      · exact .inl (by rw [readWord_eq_some read]; rfl)
      · exact .inl (by rw [readWord_eq_some read]; rfl)
      · obtain ⟨_, _, same⟩ := Option.map_eq_some_iff.mp read
        cases same
        exact .inl rfl
      · split at read
        · cases read
          exact .inl rfl
        · obtain ⟨_, taken, same⟩ := Option.map_eq_some_iff.mp read
          cases same
          exact .inr (.inr (.inl ⟨_, _, taken, rfl⟩))
      · split at read
        · cases read
          exact .inl rfl
        · obtain ⟨_, taken, same⟩ := Option.map_eq_some_iff.mp read
          cases same
          exact .inr (.inr (.inr ⟨_, _, taken, rfl⟩))
      · obtain ⟨_, taken, same⟩ := Option.map_eq_some_iff.mp read
        cases same
        obtain ⟨literal, spells, _⟩ := readNumber_sound taken
        exact .inr (.inl ⟨_, ⟨literal, by rwa [String.toList_ofList]⟩, rfl⟩)

theorem readItems_cases {items : List Document.Raw}
    (read : readItems (bound + 1) input = some (items, tail)) :
    ∃ item after, readValue bound input = some (item, after) ∧
      (items = [item] ∨ ∃ rest others, readItems bound rest = some (others, tail) ∧
        items = item :: others) := by
  rw [readItems] at read
  obtain ⟨⟨item, after⟩, first, read⟩ := Option.bind_eq_some_iff.mp read
  refine ⟨item, after, first, ?_⟩
  dsimp only at read
  split at read
  · cases read
  · split at read
    · cases read
      exact .inl rfl
    · obtain ⟨_, taken, same⟩ := Option.map_eq_some_iff.mp read
      cases same
      exact .inr ⟨_, _, taken, rfl⟩
    · cases read

theorem readFields_cases {fields : List (Option String × Document.Raw)}
    (read : readFields (bound + 1) input = some (fields, tail)) :
    ∃ key value before after, readValue bound before = some (value, after) ∧
      (fields = [(key, value)] ∨ ∃ rest others, readFields bound rest = some (others, tail) ∧
        fields = (key, value) :: others) := by
  rw [readFields] at read
  obtain ⟨_, _, read⟩ := Option.bind_eq_some_iff.mp read
  obtain ⟨⟨key, _⟩, _, read⟩ := Option.bind_eq_some_iff.mp read
  obtain ⟨before, _, read⟩ := Option.bind_eq_some_iff.mp read
  obtain ⟨⟨value, after⟩, first, read⟩ := Option.bind_eq_some_iff.mp read
  refine ⟨key, value, before, after, first, ?_⟩
  dsimp only at read
  split at read
  · cases read
  · split at read
    · cases read
      exact .inl rfl
    · obtain ⟨_, taken, same⟩ := Option.map_eq_some_iff.mp read
      cases same
      exact .inr ⟨_, _, taken, rfl⟩
    · cases read

/-- Under any bound, the literals of what is taken are spelled. -/
theorem spelled_of_read : ∀ bound : Nat,
    (∀ input document tail, readValue bound input = some (document, tail) →
      ∀ text ∈ literals document, Spelled text) ∧
    (∀ input items tail, readItems bound input = some (items, tail) →
      ∀ text ∈ itemLiterals items, Spelled text) ∧
    ∀ input fields tail, readFields bound input = some (fields, tail) →
      ∀ text ∈ fieldLiterals fields, Spelled text
  | 0 => ⟨nofun, nofun, nofun⟩
  | bound + 1 => by
      obtain ⟨values, sequences, records⟩ := spelled_of_read bound
      refine ⟨?_, ?_, ?_⟩
      · intro input document tail read
        obtain none | ⟨text, spelled, rfl⟩ | ⟨rest, items, taken, rfl⟩ |
          ⟨rest, fields, taken, rfl⟩ := readValue_cases read
        · rw [none]
          exact List.forall_mem_nil _
        · exact List.forall_mem_singleton.mpr spelled
        · exact sequences rest items tail taken
        · exact records rest fields tail taken
      · intro input items tail read
        obtain ⟨item, after, first, rfl | ⟨rest, others, taken, rfl⟩⟩ := readItems_cases read
        · exact List.forall_mem_append.mpr ⟨values _ _ _ first, List.forall_mem_nil _⟩
        · exact List.forall_mem_append.mpr ⟨values _ _ _ first, sequences _ _ _ taken⟩
      · intro input fields tail read
        obtain ⟨key, value, before, after, first, rfl | ⟨rest, others, taken, rfl⟩⟩ :=
          readFields_cases read
        · exact List.forall_mem_append.mpr ⟨values _ _ _ first, List.forall_mem_nil _⟩
        · exact List.forall_mem_append.mpr ⟨values _ _ _ first, records _ _ _ taken⟩

/-- **The literals of what is read from a text are spelled.** -/
theorem spelled_of_ofBytes? {document : Document.Raw}
    (read : Document.ofBytes? input = some document) :
    ∀ text ∈ literals document, Spelled text := by
  unfold Document.ofBytes? at read
  split at read
  · next found =>
      obtain ⟨_, same⟩ := Option.ite_none_right_eq_some.mp read
      cases same
      exact (spelled_of_read _).1 _ _ _ found
  · cases read

end Reader

/-! ## Plain texts -/

mutual

theorem literals_raw : ∀ document : Document, literals (raw document) = literals document
  | .null => rfl
  | .bool _ => rfl
  | .number _ => rfl
  | .string _ => rfl
  | .array items => itemLiterals_rawItems items
  | .object fields => fieldLiterals_rawFields fields

theorem itemLiterals_rawItems : ∀ items : List Document,
    itemLiterals (rawItems items) = itemLiterals items
  | [] => rfl
  | item :: rest => by
      rw [rawItems, itemLiterals, itemLiterals, literals_raw item, itemLiterals_rawItems rest]

theorem fieldLiterals_rawFields : ∀ fields : List (String × Document),
    fieldLiterals (rawFields fields) = fieldLiterals fields
  | [] => rfl
  | (key, value) :: rest => by
      rw [rawFields, fieldLiterals, fieldLiterals, literals_raw value,
        fieldLiterals_rawFields rest]

end

end Rego.Json
