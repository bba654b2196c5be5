import Mathlib.Data.List.Count
import Mathlib.Data.List.Nodup
import Rego.Json.Record
import Rego.Proofs.Json.Grammar

/-!
# Written records are read field by field

Where the keys of an object are distinct, each field of a record is what stands under its name, or
absent (`fields?_raw`). Fields that are left out when they hold nothing are optional ones, and are
read as holding nothing.
-/

namespace Rego

set_option autoImplicit false

/-- No field is deeper than all of them. -/
theorem Json.depth_le_fieldsDepth {τ : Type} {field : τ × Json τ} {fields : List (τ × Json τ)}
    (member : field ∈ fields) : depth field.2 ≤ fieldsDepth fields := by
  induction fields with
  | nil => cases member
  | cons first rest ih =>
      rw [fieldsDepth]
      rcases List.mem_cons.mp member with rfl | later
      · exact Nat.le_max_left _ _
      · exact Nat.le_trans (ih later) (Nat.le_max_right _ _)

namespace Document

variable {front back : List (String × Document)} {name : String}

theorem get?_append : get? name (front ++ back) = (get? name front).or (get? name back) := by
  induction front with
  | nil => rfl
  | cons field rest ih =>
      obtain ⟨key, document⟩ := field
      rw [List.cons_append, get?, get?, ih]
      split <;> rfl

end Document

namespace Record

open Json

variable {fields : List (String × Document)}

theorem find?_rawFields (name : String) (fields : List (String × Document)) :
    find? name (rawFields fields) = (Document.get? name fields).map raw := by
  induction fields with
  | nil => rfl
  | cons field rest ih =>
      obtain ⟨key, document⟩ := field
      rw [rawFields, find?, Document.get?, ih]
      by_cases same : name = key
      · rw [if_pos (congrArg some same.symm), if_pos same, Option.map_some]
      · rw [if_neg fun equal => same (Option.some.inj equal).symm, if_neg same]

theorem map_fst_rawFields (fields : List (String × Document)) :
    (rawFields fields).map Prod.fst = (fields.map Prod.fst).map some := by
  induction fields with
  | nil => rfl
  | cons field rest ih => rw [rawFields, List.map_cons, ih, List.map_cons, List.map_cons]

/-- Among distinct keys every name is single. -/
theorem isSingle_rawFields (distinct : (fields.map Prod.fst).Nodup) (name : String) :
    isSingle name (rawFields fields) = true := by
  have count : ((rawFields fields).filter fun field => field.1 == some name).length =
      (fields.map Prod.fst).count name := by
    rw [← List.countP_eq_length_filter, ← List.count_map_of_injective _ some
      (Option.some_injective _), ← map_fst_rawFields, List.count, List.countP_map]
    rfl
  unfold isSingle
  rw [count]
  exact decide_eq_true (List.nodup_iff_count_le_one.mp distinct name)

/-- **A record is read field by field.** -/
theorem fields?_raw (distinct : (fields.map Prod.fst).Nodup) (names : List String) :
    fields? names (raw (.object fields)) =
      some (names.map fun name => (Document.get? name fields).map raw) := by
  have named : ((rawFields fields).all fun field => field.1.isSome) = true := by
    rw [List.all_eq_true]
    intro field member
    have key := List.mem_map_of_mem (f := Prod.fst) member
    rw [map_fst_rawFields] at key
    obtain ⟨name, _, same⟩ := List.mem_map.mp key
    rw [← same]
    rfl
  have single : (names.all fun name => isSingle name (rawFields fields)) = true :=
    List.all_eq_true.mpr fun name _ => isSingle_rawFields distinct name
  rw [raw, fields?, named, single, Bool.and_self, if_pos rfl]
  simp only [find?_rawFields]

/-! ## Field values -/

/-- A list of texts is read back. -/
theorem texts?_raw (texts : List String) :
    texts? (raw (.array (texts.map .string))) = some texts := by
  rw [raw, texts?]
  induction texts with
  | nil => rfl
  | cons text rest ih =>
      rw [List.map_cons, rawItems, List.mapM_cons, ih]
      rfl

/-- An optional field that is left out when there is nothing to hold is read back. -/
theorem optional_map {α : Type} {read : Document.Raw → Option α} {write : α → Document.Raw}
    (back : ∀ value, read (write value) = some value) (held : ∀ value, write value ≠ .null)
    (field : Option α) : optional read (field.map write) = some field := by
  cases field with
  | none => rfl
  | some value =>
      rw [Option.map_some, optional, back]
      · rfl
      · exact held value

end Record

end Rego
