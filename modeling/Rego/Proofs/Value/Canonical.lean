import Rego.Proofs.Value.Fields
import Rego.Value.Union

/-!
# Canonical values

A value is canonical when at every depth, inside keys too, members and keys ascend strictly and no
big number fits a word (`Canonical`). The second half is part of what a big number is, so it is the
order that has to be kept up (`canonical_iff_wellFormed`). The operations on members and fields keep
it: inserting and setting, whatever leaves members out, and the unions and intersections made of
these. What is looked up in a well-formed value is well-formed.
-/

namespace Rego

set_option autoImplicit false

/-- A number is written in the shortest form: a big one does not fit a word. -/
def Number.Reduced : Number → Prop
  | .big value => ¬FitsWord value
  | _ => True

theorem Number.reduced (number : Number) : number.Reduced := by
  cases number with
  | big value => assumption
  | word _ => trivial
  | float _ => trivial

/-- Members ascend strictly. -/
def Members.Ascending (members : List Value) : Prop :=
  members.Pairwise fun left right => left.compare right = .lt

namespace Value

mutual

/-- The numbers in a value, at every depth and inside keys too. -/
def numbers : Value → List Number
  | .number payload => [payload]
  | .array items => itemNumbers items
  | .object fields => fieldNumbers fields
  | .set members => itemNumbers members
  | _ => []
termination_by structural value => value

/-- The numbers in items. -/
def itemNumbers : List Value → List Number
  | [] => []
  | item :: rest => numbers item ++ itemNumbers rest
termination_by structural items => items

/-- The numbers in fields. -/
def fieldNumbers : List (Value × Value) → List Number
  | [] => []
  | (key, value) :: rest => numbers key ++ numbers value ++ fieldNumbers rest
termination_by structural fields => fields

end

/-- Members and keys ascend strictly, and numbers are in their shortest form. -/
structure Canonical (value : Value) : Prop where
  ordered : value.WellFormed
  reduced : ∀ number ∈ value.numbers, number.Reduced

/-- **A value is canonical if its members and keys ascend.** -/
theorem canonical_iff_wellFormed {value : Value} : value.Canonical ↔ value.WellFormed :=
  ⟨Canonical.ordered, fun formed => ⟨formed, fun number _ => number.reduced⟩⟩

/-! ## Parts of well-formed values -/

theorem allWellFormed_iff {items : List Value} :
    AllWellFormed items ↔ ∀ item ∈ items, item.WellFormed := by
  induction items with
  | nil => exact ⟨fun _ => List.forall_mem_nil _, fun _ => trivial⟩
  | cons item rest ih => rw [AllWellFormed, List.forall_mem_cons, ih]

theorem fieldsWellFormed_iff {fields : List (Value × Value)} :
    FieldsWellFormed fields ↔ ∀ field ∈ fields, field.1.WellFormed ∧ field.2.WellFormed := by
  induction fields with
  | nil => exact ⟨fun _ => List.forall_mem_nil _, fun _ => trivial⟩
  | cons field rest ih => rw [FieldsWellFormed, List.forall_mem_cons, ih, and_assoc]

theorem wellFormed_array_iff {items : List Value} :
    (Value.array items).WellFormed ↔ ∀ item ∈ items, item.WellFormed :=
  allWellFormed_iff

theorem wellFormed_set_iff {members : List Value} :
    (Value.set members).WellFormed ↔
      (∀ member ∈ members, member.WellFormed) ∧ Members.Ascending members :=
  and_congr_left fun _ => allWellFormed_iff

theorem wellFormed_object_iff {fields : List (Value × Value)} :
    (Value.object fields).WellFormed ↔
      (∀ field ∈ fields, field.1.WellFormed ∧ field.2.WellFormed) ∧ Fields.Ascending fields :=
  and_congr_left fun _ => fieldsWellFormed_iff

end Value

/-! ## Members -/

namespace Members

open Value

variable {members left right : List Value} {value : Value}

/-- The members after an insertion are the new one and those that were there. -/
theorem forall_insert {allowed : Value → Prop} (new : allowed value)
    (all : ∀ member ∈ members, allowed member) :
    ∀ member ∈ insert value members, allowed member := by
  induction members with
  | nil => exact List.forall_mem_singleton.mpr new
  | cons first rest ih =>
      obtain ⟨here, later⟩ := List.forall_mem_cons.mp all
      unfold insert
      cases value.compare first with
      | lt => exact List.forall_mem_cons.mpr ⟨new, all⟩
      | eq => exact all
      | gt => exact List.forall_mem_cons.mpr ⟨here, ih later⟩

/-- An insertion keeps members ascending. -/
theorem ascending_insert (ascending : Ascending members) (value : Value) :
    Ascending (insert value members) := by
  induction members with
  | nil => exact List.pairwise_singleton _ _
  | cons first rest ih =>
      obtain ⟨least, later⟩ := List.pairwise_cons.mp ascending
      unfold insert
      cases place : value.compare first with
      | lt =>
          refine List.pairwise_cons.mpr ⟨List.forall_mem_cons.mpr ⟨place, ?_⟩, ascending⟩
          intro member within
          exact Std.TransCmp.lt_trans place (least member within)
      | eq => exact ascending
      | gt =>
          exact List.pairwise_cons.mpr
            ⟨forall_insert (Std.OrientedCmp.lt_of_gt place) least, ih later⟩

theorem wellFormed_insert (formed : (Value.set members).WellFormed) (new : value.WellFormed) :
    (Value.set (insert value members)).WellFormed := by
  obtain ⟨all, ascending⟩ := wellFormed_set_iff.mp formed
  exact wellFormed_set_iff.mpr ⟨forall_insert new all, ascending_insert ascending value⟩

/-- Members that were left out leave a set of the others. -/
theorem wellFormed_of_sublist (formed : (Value.set members).WellFormed)
    (fewer : left.Sublist members) : (Value.set left).WellFormed := by
  obtain ⟨all, ascending⟩ := wellFormed_set_iff.mp formed
  exact wellFormed_set_iff.mpr ⟨fun member within => all member (fewer.subset within),
    List.Pairwise.sublist fewer ascending⟩

theorem wellFormed_difference (formed : (Value.set left).WellFormed) (right : List Value) :
    (Value.set (difference left right)).WellFormed :=
  wellFormed_of_sublist formed List.filter_sublist

theorem wellFormed_intersection (formed : (Value.set left).WellFormed)
    (formed' : (Value.set right).WellFormed) :
    (Value.set (intersection left right)).WellFormed := by
  unfold intersection
  split
  · exact wellFormed_of_sublist formed' List.filter_sublist
  · exact wellFormed_of_sublist formed List.filter_sublist

theorem wellFormed_union (formed : (Value.set left).WellFormed)
    (formed' : (Value.set right).WellFormed) : (Value.set (union left right)).WellFormed := by
  obtain ⟨all, _⟩ := wellFormed_set_iff.mp formed'
  exact List.foldlRecOn (motive := fun members => (Value.set members).WellFormed) right _ formed
    fun _ before member within => wellFormed_insert before (all member within)

/-- Combining sets one after the other gives a set if combining two of them does. -/
theorem wellFormed_foldl {operation : List Value → List Value → List Value}
    (combines : ∀ {left right : List Value}, (Value.set left).WellFormed →
      (Value.set right).WellFormed → (Value.set (operation left right)).WellFormed)
    {sets : List (List Value)} (all : ∀ set ∈ sets, (Value.set set).WellFormed)
    (first : (Value.set members).WellFormed) :
    (Value.set (sets.foldl operation members)).WellFormed :=
  List.foldlRecOn (motive := fun members => (Value.set members).WellFormed) sets operation first
    fun _ before set within => combines before (all set within)

theorem wellFormed_unionAll {sets : List (List Value)}
    (all : ∀ set ∈ sets, (Value.set set).WellFormed) : (Value.set (unionAll sets)).WellFormed :=
  wellFormed_foldl wellFormed_union all ⟨trivial, .nil⟩

theorem wellFormed_intersectionAll {sets : List (List Value)}
    (all : ∀ set ∈ sets, (Value.set set).WellFormed) :
    (Value.set (intersectionAll sets)).WellFormed := by
  cases sets with
  | nil => exact ⟨trivial, .nil⟩
  | cons first rest =>
      obtain ⟨here, later⟩ := List.forall_mem_cons.mp all
      exact wellFormed_foldl wellFormed_intersection later here

end Members

/-! ## Fields -/

namespace Fields

open Value

variable {fields : List (Value × Value)} {key value : Value}

theorem wellFormed_put (formed : (Value.object fields).WellFormed) (new : key.WellFormed)
    (new' : value.WellFormed) : (Value.object (put key value fields)).WellFormed := by
  obtain ⟨all, ascending⟩ := wellFormed_object_iff.mp formed
  have keys := forall_key_put new value fun field member => (all field member).1
  refine wellFormed_object_iff.mpr ⟨fun field member => ?_, ascending_put ascending key value⟩
  rcases mem_put ascending member with same | before
  · rw [same]
    exact ⟨keys field member, new'⟩
  · exact all field before

theorem wellFormed_ofList {entries : List (Value × Value)}
    (all : ∀ entry ∈ entries, entry.1.WellFormed ∧ entry.2.WellFormed) :
    (Value.object (ofList entries)).WellFormed := by
  have empty : (Value.object []).WellFormed := ⟨trivial, .nil⟩
  exact List.foldlRecOn (motive := fun fields => (Value.object fields).WellFormed) entries _ empty
    fun _ before entry member => wellFormed_put before (all entry member).1 (all entry member).2

theorem wellFormed_ofNamed {entries : List (String × Value)}
    (all : ∀ entry ∈ entries, entry.2.WellFormed) :
    (Value.object (ofNamed entries)).WellFormed := by
  refine wellFormed_ofList fun entry member => ?_
  obtain ⟨named, within, rfl⟩ := List.mem_map.mp member
  exact ⟨trivial, all named within⟩

theorem wellFormed_of_get? (formed : (Value.object fields).WellFormed)
    (found : get? key fields = some value) : value.WellFormed := by
  obtain ⟨stored, member, _⟩ := exists_mem_of_get? found
  exact ((wellFormed_object_iff.mp formed).1 (stored, value) member).2

/-- What stands under a key is well-formed, whatever well-formed value stands for nothing. -/
theorem wellFormed_getD (formed : (Value.object fields).WellFormed) {fallback : Value}
    (formed' : fallback.WellFormed) : ((get? key fields).getD fallback).WellFormed := by
  cases found : get? key fields with
  | none => exact formed'
  | some old => exact wellFormed_of_get? formed found

/-- The keys of an object are a set as they stand. -/
theorem wellFormed_keys (formed : (Value.object fields).WellFormed) :
    (Value.set (fields.map Prod.fst)).WellFormed := by
  obtain ⟨all, ascending⟩ := wellFormed_object_iff.mp formed
  exact wellFormed_set_iff.mpr
    ⟨List.forall_mem_map.mpr fun field member => (all field member).1,
      List.pairwise_map.mpr ascending⟩

end Fields

namespace Value

/-! ## Unions of objects -/

mutual

theorem wellFormed_union : ∀ right left : Value, left.WellFormed → right.WellFormed →
    (left.union right).WellFormed
  | .object rightFields, left, formed, formed' => by
      cases left with
      | object leftFields => exact wellFormed_unionFields rightFields leftFields formed formed'.1
      | _ => exact formed'
  | .null, left, _, _ => by cases left <;> trivial
  | .bool _, left, _, _ => by cases left <;> trivial
  | .number _, left, _, _ => by cases left <;> trivial
  | .string _, left, _, _ => by cases left <;> trivial
  | .undefined, left, _, _ => by cases left <;> trivial
  | .array _, left, _, formed' => by cases left <;> exact formed'
  | .set _, left, _, formed' => by cases left <;> exact formed'

theorem wellFormed_unionFields : ∀ right left : List (Value × Value),
    (Value.object left).WellFormed → FieldsWellFormed right →
      (Value.object (unionFields left right)).WellFormed
  | [], _, formed, _ => formed
  | (key, value) :: rest, left, formed, ⟨keyFormed, valueFormed, later⟩ => by
      unfold unionFields
      cases found : Fields.get? key left with
      | none =>
          exact wellFormed_unionFields rest _ (Fields.wellFormed_put formed keyFormed valueFormed)
            later
      | some current =>
          have merged := wellFormed_union value current (Fields.wellFormed_of_get? formed found)
            valueFormed
          exact wellFormed_unionFields rest _ (Fields.wellFormed_put formed keyFormed merged) later

end

/-! ## Lookup -/

/-- **What a well-formed value holds at a key is well-formed.** -/
theorem wellFormed_lookup {container : Value} (formed : container.WellFormed) (key : Value) :
    (container.lookup key).WellFormed := by
  unfold lookup
  split
  · exact Fields.wellFormed_getD formed trivial
  · rename_i members
    cases found : Members.find? key members with
    | none => trivial
    | some member =>
        exact (wellFormed_set_iff.mp formed).1 member (List.mem_of_find?_eq_some found)
  · rename_i items position
    split
    · rename_i index _
      rw [List.getD_eq_getElem?_getD]
      cases found : items[index]? with
      | none => trivial
      | some item => exact wellFormed_array_iff.mp formed item (List.mem_of_getElem? found)
    · trivial
  · trivial

end Value

end Rego
