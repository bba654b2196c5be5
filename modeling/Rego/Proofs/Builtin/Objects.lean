import Rego.Proofs.Builtin.Calls
import Rego.Proofs.Value.Canonical
import Rego.Proofs.Value.Union

/-!
# Calls on objects

The union of two objects lays the right one over the left one, and the union of several objects lays
them over each other in the order of the array, starting from an object without fields
(`unionItems_map`). What a path of keys leads to in a union can be read off the two objects
(`reach_union`): the path goes down in both while both have objects there, and from where they do
not it goes on in one of them. The calls follow these laws (`unions_prefer_right`).
-/

namespace Rego.Builtin.Collections

set_option autoImplicit false

open Fields (get?)
open Registry (Gives Fails)

variable {items : List Value}

/-! ## Two objects -/

theorem allows_object (fields : List (Value × Value)) (label : String) (text : Option String) :
    (Ty.named label text (.object [] (some (.any [], .any [])))).Allows (.object fields) :=
  .named (.inr (Ty.admits_objectOfAny fields)) label text

theorem gives_objectUnion (left right : List (Value × Value)) :
    Gives "object.union" [.object left, .object right]
      (.object (Value.unionFields left right)) := by
  have found : Registry.standard.find? "object.union" =
      some (binary Declared.objectUnion objectUnion) := rfl
  exact Registry.gives_of_run found (by decide) (Registry.check_of_allows
    (.cons (allows_object left _ _) (.cons (allows_object right _ _) .nil))) rfl

theorem kind_lookup_ne {key : Value} {fields : List (Value × Value)}
    (other : ∀ inner, get? key fields ≠ some (.object inner)) :
    ((Value.object fields).lookup key).kind ≠ .object := by
  rw [Value.lookup]
  cases found : get? key fields with
  | none =>
      intro same
      cases same
  | some value =>
      cases value with
      | object inner => exact absurd found (other inner)
      | _ =>
          intro same
          cases same

/-! ## Paths -/

/-- What a path of keys leads to in a value that is laid over another. While both are objects the
path goes down in both. Under a key that only the left one has it goes on in the left one, and from
where not both are objects in the right one. -/
def overlaid : List Value → Value → Value → Value
  | [], left, right => left.union right
  | key :: path, .object left, .object right =>
    match get? key right with
    | some value => overlaid path ((Value.object left).lookup key) value
    | none => reach ((Value.object left).lookup key) path
  | path, _, right => reach right path

theorem overlaid_of_flat {left right : Value} (flat : left.kind ≠ .object ∨ right.kind ≠ .object)
    (path : List Value) : overlaid path left right = reach right path := by
  cases path with
  | nil => exact Value.union_of_flat flat
  | cons key path =>
      cases left with
      | object _ =>
          cases right with
          | object _ => exact (flat.elim (· rfl) (· rfl)).elim
          | _ => rfl
      | _ => rfl

/-- **What a path of keys leads to in a union is read off the two values.** -/
theorem reach_union {left right : Value} (ascends : Value.Ascends right) (path : List Value) :
    reach (left.union right) path = overlaid path left right := by
  induction path generalizing left right with
  | nil => rfl
  | cons key path ih =>
      by_cases flat : left.kind ≠ .object ∨ right.kind ≠ .object
      · rw [overlaid_of_flat flat, Value.union_of_flat flat]
      · rw [not_or, not_not, not_not] at flat
        obtain ⟨object, object'⟩ := flat
        cases left with
        | object left =>
            cases right with
            | object right =>
                have held := Value.get?_unionFields ascends.ascending key left
                have step : reach ((Value.object left).union (.object right)) (key :: path) =
                    reach ((get? key (Value.unionFields left right)).getD .undefined) path := rfl
                rw [step, held, overlaid]
                cases found : get? key right with
                | none => rfl
                | some value =>
                    obtain ⟨stored, member, _⟩ := Fields.exists_mem_of_get? found
                    exact ih (ascends.field (stored, value) member)
            | _ => cases object'
        | _ => cases object

/-! ## Many objects -/

theorem unionItems_map (name : String) (index : Nat) (merged : List (Value × Value))
    (objects : List (List (Value × Value))) :
    unionItems name index (.object merged) (objects.map .object) =
      .ok (.object (objects.foldl Value.unionFields merged)) := by
  induction objects generalizing index merged with
  | nil => rfl
  | cons first rest ih => exact ih (index + 1) (Value.unionFields merged first)

/-- The first item that is no object ends the union. -/
theorem unionItems_fails (name : String) (index : Nat) (merged : Value)
    (other : ∃ item ∈ items, item.kind ≠ .object) :
    ∃ cause, unionItems name index merged items = failed name cause := by
  induction items generalizing index merged with
  | nil => simp at other
  | cons first rest ih =>
      cases first with
      | object fields =>
          obtain ⟨item, within, kind⟩ := other
          rcases List.mem_cons.mp within with rfl | later
          · exact absurd rfl kind
          · exact ih (index + 1) (merged.union (.object fields)) ⟨item, later, kind⟩
      | _ => exact ⟨.notObjectItem index, rfl⟩

/-- Items among which there are no others are objects. -/
theorem exists_objects (only : ¬∃ item ∈ items, item.kind ≠ .object) :
    ∃ objects : List (List (Value × Value)), objects.map .object = items := by
  refine Value.exists_map_of_kind (fun value kind => ?_) only
  cases value with
  | object fields => exact ⟨fields, rfl⟩
  | _ => cases kind

theorem allows_arrayOfObjects (objects : List (List (Value × Value))) (label : String)
    (text : Option String) :
    (Ty.named label text (.array [] (some (.object [] (some (.any [], .any [])))))).Allows
      (.array (objects.map .object)) := by
  refine .named (.inr ?_) label text
  rw [Ty.admits_arrayOf, List.all_map]
  exact List.all_eq_true.mpr fun fields _ => Ty.admits_objectOfAny fields

theorem find?_objectUnionN : Registry.standard.find? "object.union_n" =
    some (unary Declared.objectUnionN objectUnionAll) := rfl

theorem gives_objectUnionAll (objects : List (List (Value × Value))) :
    Gives "object.union_n" [.array (objects.map .object)]
      (.object (objects.foldl Value.unionFields [])) :=
  Registry.gives_of_run find?_objectUnionN (by decide)
    (Registry.check_of_allows (.cons (allows_arrayOfObjects objects _ _) .nil))
    (unionItems_map _ 0 [] objects)

/-- **The union of an array fails exactly if there are items that are no objects.** -/
theorem objectUnionAll_fails_iff :
    (∃ cause, Fails "object.union_n" [.array items] cause) ↔
      ∃ item ∈ items, item.kind ≠ .object := by
  constructor
  · rintro ⟨cause, fails⟩
    by_contra only
    obtain ⟨objects, rfl⟩ := exists_objects only
    exact fails.not_gives _ (gives_objectUnionAll objects)
  · intro other
    exact Registry.exists_fails_of_run find?_objectUnionN (by decide) rfl
      (unionItems_fails _ 0 (.object []) other)

/-- **Unions of objects are recursive and prefer the right side.** The union of two objects is an
object with the keys of both. Where both hold objects it holds the union of these; what the right
one holds takes the place of all else, and keys that only the left one has keep what they hold. So
along every path of keys the union leads to what can be read off the two objects. An object without
fields on either side changes nothing, and neither does the object itself.

The union of an array of objects goes through it from left to right: one more object at the end is
one more union of two. It fails exactly if there are items that are no objects. -/
theorem unions_prefer_right :
    (∀ left right : List (Value × Value), (Value.object left).WellFormed →
      (Value.object right).WellFormed → ∃ fields : List (Value × Value),
        Gives "object.union" [.object left, .object right] (.object fields) ∧
        (Value.object fields).WellFormed ∧
        (∀ key : Value,
          ((get? key fields).isSome ↔ (get? key left).isSome ∨ (get? key right).isSome) ∧
          (∀ inner inner', get? key left = some (.object inner) →
            get? key right = some (.object inner') → ∃ merged : Value,
              Gives "object.union" [.object inner, .object inner'] merged ∧
              get? key fields = some merged) ∧
          (∀ value, get? key right = some value →
            (∀ inner, get? key left ≠ some (.object inner)) ∨ value.kind ≠ .object →
              get? key fields = some value) ∧
          (get? key right = none → get? key fields = get? key left)) ∧
        ∀ path : List Value,
          reach (.object fields) path = overlaid path (.object left) (.object right)) ∧
    (∀ fields : List (Value × Value), (Value.object fields).WellFormed →
      Gives "object.union" [.object fields, .object []] (.object fields) ∧
      Gives "object.union" [.object [], .object fields] (.object fields) ∧
      Gives "object.union" [.object fields, .object fields] (.object fields)) ∧
    (∀ (objects : List (List (Value × Value))) (last : List (Value × Value)),
      ∃ before after : Value,
        Gives "object.union_n" [.array (objects.map .object)] before ∧
        Gives "object.union_n" [.array (objects.map .object ++ [.object last])] after ∧
        Gives "object.union" [before, .object last] after) ∧
    (∀ left right : List (Value × Value), (Value.object left).WellFormed → ∃ union : Value,
      Gives "object.union_n" [.array [.object left, .object right]] union ∧
      Gives "object.union" [.object left, .object right] union) ∧
    ∀ items : List Value, (∃ cause, Fails "object.union_n" [.array items] cause) ↔
      ∃ item ∈ items, item.kind ≠ .object := by
  refine ⟨?_, ?_, ?_, ?_, fun items => objectUnionAll_fails_iff⟩
  · intro left right formed formed'
    refine ⟨_, gives_objectUnion left right,
      Value.wellFormed_union (.object right) (.object left) formed formed', fun key => ?_,
      fun path => @reach_union (.object left) _ (Value.ascends_of_wellFormed _ formed') path⟩
    have held := Value.get?_unionFields formed'.2 key left
    refine ⟨?_, ?_, ?_, ?_⟩
    · rw [held]
      cases get? key right <;> simp
    · intro inner inner' one two
      refine ⟨_, gives_objectUnion inner inner', ?_⟩
      rw [held, two, Value.lookup, one]
      rfl
    · intro value found flat
      rw [held, found]
      exact congrArg some (Value.union_of_flat (flat.imp_left kind_lookup_ne))
    · intro absent
      rw [held, absent]
  · intro fields formed
    have left := gives_objectUnion [] fields
    have both := gives_objectUnion fields fields
    rw [Value.unionFields_nil_left formed.2] at left
    rw [Value.object.inj (Value.union_self (Value.ascends_of_wellFormed _ formed))] at both
    exact ⟨gives_objectUnion fields [], left, both⟩
  · intro objects last
    refine ⟨_, _, gives_objectUnionAll objects, ?_, gives_objectUnion _ last⟩
    have more := gives_objectUnionAll (objects ++ [last])
    rwa [List.map_append, List.foldl_append] at more
  · intro left right formed
    have all := gives_objectUnionAll [left, right]
    rw [List.foldl_cons, Value.unionFields_nil_left formed.2] at all
    exact ⟨_, all, gives_objectUnion left right⟩

/-- A key in two representations, objects under one key that share a key, and a value under this
that becomes an object. -/
theorem unions_prefer_right_nested :
    let one : Value := .number (.float (.ofBits 0x3FF0000000000000))
    let left : List (Value × Value) := [(.ofInt 1, .string "x"),
      (.string "a", .object [(.string "b", .ofInt 1), (.string "c", .ofInt 2)])]
    let right : List (Value × Value) := [(one, .string "y"),
      (.string "a", .object [(.string "b", .object [(.string "d", .null)])])]
    (Value.object left).WellFormed ∧ (Value.object right).WellFormed ∧
      (∃ fields : List (Value × Value),
        Gives "object.union" [.object left, .object right] (.object fields) ∧
        get? (.ofInt 1) fields = some (.string "y") ∧
        reach (.object fields) [.string "a", .string "b", .string "d"] = .null ∧
        reach (.object fields) [.string "a", .string "c"] = .ofInt 2) ∧
      Gives "object.union" [.object left, .object left] (.object left) ∧
      ∃ union : Value, Gives "object.union_n" [.array [.object left, .object right]] union ∧
        Gives "object.union" [.object left, .object right] union := by
  intro one left right
  obtain ⟨unions, same, _, pairs, _⟩ := unions_prefer_right
  have formed : (Value.object left).WellFormed :=
    ⟨⟨trivial, trivial, trivial, ⟨⟨trivial, trivial, trivial, trivial, trivial⟩,
      List.pairwise_pair.mpr rfl⟩, trivial⟩, List.pairwise_pair.mpr rfl⟩
  have formed' : (Value.object right).WellFormed :=
    ⟨⟨trivial, trivial, trivial, ⟨⟨trivial, ⟨⟨trivial, trivial, trivial⟩,
      List.pairwise_singleton _ _⟩, trivial⟩, List.pairwise_singleton _ _⟩, trivial⟩,
      List.pairwise_pair.mpr rfl⟩
  refine ⟨formed, formed', ?_, (same left formed).2.2, pairs left right formed⟩
  obtain ⟨fields, gives, _, keys, paths⟩ := unions left right formed formed'
  have spelled : (Value.ofInt 1).compare one = .eq := by decide +kernel
  have found : get? (.ofInt 1) right = some (.string "y") := by
    rw [get?, if_pos (beq_iff_eq.mpr spelled)]
  refine ⟨fields, gives, ((keys (.ofInt 1)).2.2.1 _ found (.inr (by decide))), ?_, ?_⟩
  · rw [paths]
    rfl
  · rw [paths]
    rfl

end Rego.Builtin.Collections
