import Rego.Proofs.Value.Canonical
import Rego.Proofs.Value.Decoding
import Rego.Proofs.Value.Merge

/-!
# Decoding and merging give well-formed values

A document says nothing about the order of its fields and may repeat them, but they are entered one
after the other into an object that stays well-formed (`wellFormed_of_decode`). A merge sets keys of
the tree it started from, so the tree it leaves behind is well-formed at whatever point it stopped
(`wellFormed_mergeAt`).
-/

namespace Rego

set_option autoImplicit false

namespace Value

/-! ## Decoding -/

mutual

theorem wellFormed_of_ofDocument? : ∀ (document : Document) {value : Value},
    ofDocument? document = some value → value.WellFormed
  | .null, _, read => by cases read; trivial
  | .bool _, _, read => by cases read; trivial
  | .string _, _, read => by cases read; trivial
  | .number _, _, read => by
      obtain ⟨number, _, rfl⟩ := Option.map_eq_some_iff.mp read
      trivial
  | .array documents, _, read => by
      obtain ⟨items, known, rfl⟩ := Option.map_eq_some_iff.mp read
      exact wellFormed_array_iff.mpr (wellFormed_of_ofItems? documents known)
  | .object fields, _, read => by
      unfold ofDocument? at read
      cases hidden : disguised? fields with
      | some hidden' =>
          rw [hidden] at read
          obtain ⟨number, rfl⟩ := exists_number_of_ofDisguised? read
          trivial
      | none =>
          rw [hidden] at read
          obtain ⟨entries, known, rfl⟩ := Option.map_eq_some_iff.mp read
          exact Fields.wellFormed_ofList (wellFormed_of_ofFields? fields known)

theorem wellFormed_of_ofItems? : ∀ (documents : List Document) {items : List Value},
    ofItems? documents = some items → ∀ item ∈ items, item.WellFormed
  | [], _, read => by cases read; exact nofun
  | document :: rest, _, read => by
      unfold ofItems? at read
      obtain ⟨item, first, read⟩ := Option.bind_eq_some_iff.mp read
      obtain ⟨items, later, read⟩ := Option.bind_eq_some_iff.mp read
      cases read
      exact List.forall_mem_cons.mpr
        ⟨wellFormed_of_ofDocument? document first, wellFormed_of_ofItems? rest later⟩

theorem wellFormed_of_ofFields? : ∀ (fields : List (String × Document))
    {entries : List (Value × Value)}, ofFields? fields = some entries →
    ∀ entry ∈ entries, entry.1.WellFormed ∧ entry.2.WellFormed
  | [], _, read => by cases read; exact nofun
  | (key, document) :: rest, _, read => by
      unfold ofFields? at read
      obtain ⟨value, first, read⟩ := Option.bind_eq_some_iff.mp read
      obtain ⟨entries, later, read⟩ := Option.bind_eq_some_iff.mp read
      cases read
      exact List.forall_mem_cons.mpr
        ⟨⟨trivial, wellFormed_of_ofDocument? document first⟩, wellFormed_of_ofFields? rest later⟩

end

/-- **A decoded value is well-formed.** -/
theorem wellFormed_of_decode {bytes : List UInt8} {value : Value}
    (read : decode bytes = .ok value) : value.WellFormed := by
  obtain ⟨_, document, _, _, _, known⟩ := decode_eq_ok_iff.mp read
  exact wellFormed_of_ofDocument? document known

/-! ## Merging -/

section Merge

variable {current : List (Value × Value)}

theorem wellFormed_existing (formed : (Value.object current).WellFormed) (key : Value) :
    (existing key current).WellFormed :=
  Fields.wellFormed_getD formed trivial

/-- A merge that does not go into fields leaves one of its two sides. -/
theorem merge_flat {base overlay : Value}
    (flat : base.kind ≠ .object ∨ overlay.kind ≠ .object) (path : String) :
    (merge base overlay path).value = base ∨ (merge base overlay path).value = overlay := by
  by_cases defined : base = .undefined
  · rw [defined, merge_undefined]
    exact .inr rfl
  · by_cases same : base.equals overlay = true
    · rw [merge_of_equals defined same]
      exact .inl rfl
    · rw [merge_of_scalar defined same flat]
      exact .inl rfl

theorem wellFormed_merge_flat {base overlay : Value} (formed : base.WellFormed)
    (formed' : overlay.WellFormed) (flat : base.kind ≠ .object ∨ overlay.kind ≠ .object)
    (path : String) : (merge base overlay path).value.WellFormed := by
  rcases merge_flat flat path with same | same
  · rw [same]
    exact formed
  · rw [same]
    exact formed'

mutual

/-- **The tree that a merge leaves behind is well-formed, also after a conflict.** -/
theorem wellFormed_merge : ∀ overlay base : Value, base.WellFormed → overlay.WellFormed →
    ∀ path, (merge base overlay path).value.WellFormed
  | .object incoming, base, formed, formed', path => by
      cases base with
      | object current =>
          have defined : Value.object current ≠ .undefined := nofun
          by_cases same : (Value.object current).equals (.object incoming) = true
          · rw [merge_of_equals defined same]
            exact formed
          · rw [merge_object same]
            exact wellFormed_mergeFields incoming current formed formed'.1 path
      | _ => exact wellFormed_merge_flat formed formed' (.inl nofun) path
  | .null, _, formed, formed', path => wellFormed_merge_flat formed formed' (.inr nofun) path
  | .bool _, _, formed, formed', path => wellFormed_merge_flat formed formed' (.inr nofun) path
  | .number _, _, formed, formed', path => wellFormed_merge_flat formed formed' (.inr nofun) path
  | .string _, _, formed, formed', path => wellFormed_merge_flat formed formed' (.inr nofun) path
  | .array _, _, formed, formed', path => wellFormed_merge_flat formed formed' (.inr nofun) path
  | .set _, _, formed, formed', path => wellFormed_merge_flat formed formed' (.inr nofun) path
  | .undefined, _, formed, formed', path => wellFormed_merge_flat formed formed' (.inr nofun) path

/-- Each field that is merged sets one key, and so does the one that meets a conflict. -/
theorem wellFormed_mergeFields : ∀ incoming current : List (Value × Value),
    (Value.object current).WellFormed → FieldsWellFormed incoming →
      ∀ path, (Value.object (mergeFields current incoming path).1).WellFormed
  | [], _, formed, _, _ => formed
  | (key, value) :: rest, current, formed, ⟨keyFormed, valueFormed, later⟩, path => by
      have inner := wellFormed_merge value (existing key current) (wellFormed_existing formed key)
        valueFormed (childPath path key)
      have one := Fields.wellFormed_put formed keyFormed inner
      cases met : (merge (existing key current) value (childPath path key)).conflict with
      | some conflict =>
          rw [mergeFields_cons_of_conflict met]
          exact one
      | none =>
          rw [mergeFields_cons_of_done met]
          exact wellFormed_mergeFields rest _ one later path

end

theorem wellFormed_mergeBelow {overlay : Value} (formed' : overlay.WellFormed) (joined : String)
    (path walked : List String) {base : Value} (formed : base.WellFormed) :
    (mergeBelow overlay joined walked path base).value.WellFormed := by
  induction path generalizing walked base with
  | nil => exact wellFormed_merge overlay base formed formed' joined
  | cons segment rest ih =>
      -- Where nothing stands, the walk goes on as through an object without fields.
      have step (fields : List (Value × Value)) (formed : (Value.object fields).WellFormed) :
          (mergeBelow overlay joined walked (segment :: rest)
            (.object fields)).value.WellFormed := by
        rw [mergeBelow_object]
        exact Fields.wellFormed_put formed trivial (ih _ (wellFormed_existing formed _))
      cases base with
      | object fields => exact step fields formed
      | undefined =>
          rw [mergeBelow_undefined]
          exact step [] ⟨trivial, .nil⟩
      | _ => exact formed

/-- **The tree that a merge at a path leaves behind is well-formed, also after a conflict.** -/
theorem wellFormed_mergeAt {base overlay : Value} (formed : base.WellFormed)
    (formed' : overlay.WellFormed) (path : List String) :
    (base.mergeAt path overlay).value.WellFormed :=
  wellFormed_mergeBelow formed' _ path [] formed

theorem wellFormed_of_patch {base overlay value : Value} {path : List String}
    (formed : base.WellFormed) (formed' : overlay.WellFormed)
    (patched : base.patch path overlay = .ok value) : value.WellFormed := by
  unfold patch at patched
  cases met : (base.mergeAt path overlay).conflict with
  | some conflict => simp only [met, reduceCtorEq] at patched
  | none =>
      simp only [met, Except.ok.injEq] at patched
      rw [← patched]
      exact wellFormed_mergeAt formed formed' path

end Merge

end Value

end Rego
