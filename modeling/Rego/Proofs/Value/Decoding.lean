import Rego.Proofs.Value.Below
import Rego.Value.Json

/-!
# Decoded values are settled

Decoding reads bytes as a document and gives the value it stands for (`decode_eq_ok_iff`). A document
has no undefined parts, and its fields are entered one after the other into ascending ones, so a
decoded value is settled (`settled_of_decode`).
-/

namespace Rego

set_option autoImplicit false

namespace Fields

theorem settled_ofList {entries : List (Value × Value)}
    (settled : ∀ entry ∈ entries, entry.2.Settled) : Value.Settled (.object (ofList entries)) :=
  .object (ascending_foldl_put .nil entries) (forall_value_ofList settled)

end Fields

namespace Value

/-- A number in disguise stands for a number. -/
theorem exists_number_of_ofDisguised? {hidden : String × Bool} {value : Value}
    (read : ofDisguised? hidden = some value) : ∃ number, value = .number number := by
  obtain ⟨literal, more⟩ := hidden
  cases more with
  | true => cases read
  | false =>
      obtain ⟨number, _, rfl⟩ := Option.map_eq_some_iff.mp read
      exact ⟨number, rfl⟩

mutual

theorem settled_of_ofDocument? : ∀ (document : Document) {value : Value},
    ofDocument? document = some value → Settled value
  | .null, _, read => by cases read; exact .scalar nofun nofun
  | .bool _, _, read => by cases read; exact .scalar nofun nofun
  | .string _, _, read => by cases read; exact .scalar nofun nofun
  | .number _, _, read => by
      obtain ⟨number, _, rfl⟩ := Option.map_eq_some_iff.mp read
      exact .scalar nofun nofun
  | .array _, _, read => by
      obtain ⟨items, _, rfl⟩ := Option.map_eq_some_iff.mp read
      exact .scalar nofun nofun
  | .object fields, _, read => by
      unfold ofDocument? at read
      cases hidden : disguised? fields with
      | some hidden' =>
          rw [hidden] at read
          obtain ⟨number, rfl⟩ := exists_number_of_ofDisguised? read
          exact .scalar nofun nofun
      | none =>
          rw [hidden] at read
          obtain ⟨entries, known, rfl⟩ := Option.map_eq_some_iff.mp read
          exact Fields.settled_ofList (settled_of_ofFields? fields known)

theorem settled_of_ofFields? : ∀ (fields : List (String × Document))
    {entries : List (Value × Value)}, ofFields? fields = some entries →
    ∀ entry ∈ entries, entry.2.Settled
  | [], _, read => by cases read; exact nofun
  | (key, document) :: rest, _, read => by
      unfold ofFields? at read
      obtain ⟨value, first, read⟩ := Option.bind_eq_some_iff.mp read
      obtain ⟨entries, later, read⟩ := Option.bind_eq_some_iff.mp read
      cases read
      exact List.forall_mem_cons.mpr
        ⟨settled_of_ofDocument? document first, settled_of_ofFields? rest later⟩

end

/-- **What decoding does.** The bytes are those of a document within the depth limit, all of whose
string literals spell texts, and the value is the one that this document stands for. -/
theorem decode_eq_ok_iff {bytes : List UInt8} {value : Value} :
    decode bytes = .ok value ↔ ∃ raw document, Document.ofBytes? bytes = some raw ∧
      raw.depth ≤ maxDepth ∧ raw.validate = some document ∧ ofDocument? document = some value := by
  have unfolded : decode bytes = .ok value ↔
      (Document.ofBytes? bytes).bind (ofRaw? maxDepth) = some value := by
    unfold decode
    cases (Document.ofBytes? bytes).bind (ofRaw? maxDepth) <;> simp
  simp only [unfolded, Option.bind_eq_some_iff, ofRaw?, Option.ite_none_right_eq_some,
    exists_and_left]

/-- **A decoded value is settled.** -/
theorem settled_of_decode {bytes : List UInt8} {value : Value} (read : decode bytes = .ok value) :
    Settled value := by
  obtain ⟨_, document, _, _, _, known⟩ := decode_eq_ok_iff.mp read
  exact settled_of_ofDocument? document known

end Value

end Rego
