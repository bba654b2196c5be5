import Rego.Proofs.Value.Classes

/-!
# The algebra of members

A set has a value when the value is among its members, up to equality. Inserting adds one value to
those that a set has, and leaving out members by a test that does not tell equal values apart
removes the values of the test (`among_filter`). The unions, intersections and differences of sets
are made of these two, so they have the values that their names say, whichever of two equal members
they keep (`among_union`, `among_intersection`, `among_difference`), and so have unions and
intersections of many sets (`among_unionAll`, `among_intersectionAll`).
-/

namespace Rego.Members

set_option autoImplicit false

open Value

variable {value new : Value} {members left right : List Value}

theorem contains_iff : contains value members = true ↔ value.Among members := by
  rw [contains, find?, List.find?_isSome, Among]
  simp only [beq_iff_eq, equals_iff]

/-- **Inserting a value adds it to those that a set has.** -/
theorem among_insert :
    value.Among (insert new members) ↔ value.equals new = true ∨ value.Among members := by
  induction members with
  | nil => exact among_cons
  | cons first rest ih =>
      unfold insert
      cases place : new.compare first with
      | lt => rw [among_cons]
      | eq =>
          -- what equals the new value equals the member that is there
          have known : value.equals new = true → value.Among (first :: rest) := fun same =>
            among_cons.mpr (.inl (equals_trans same (equals_iff.mpr place)))
          exact (or_iff_right_of_imp known).symm
      | gt =>
          rw [among_cons, ih, among_cons]
          exact or_left_comm

/-- Leaving out members takes away the values that do not pass, if equal values pass alike. -/
theorem among_filter {keep : Value → Bool}
    (alike : ∀ {one other : Value}, one.equals other = true → keep one = keep other) :
    value.Among (members.filter keep) ↔ value.Among members ∧ keep value = true := by
  constructor
  · rintro ⟨member, within, same⟩
    obtain ⟨within, passes⟩ := List.mem_filter.mp within
    exact ⟨⟨member, within, same⟩, (alike same).trans passes⟩
  · rintro ⟨⟨member, within, same⟩, passes⟩
    exact ⟨member, List.mem_filter.mpr ⟨within, (alike same).symm.trans passes⟩, same⟩

theorem contains_congr {one other : Value} (same : one.equals other = true) :
    contains one members = contains other members := by
  rw [Bool.eq_iff_iff, contains_iff, contains_iff, among_congr same]

theorem among_filter_contains :
    value.Among (left.filter fun member => contains member right) ↔
      value.Among left ∧ value.Among right := by
  rw [among_filter contains_congr, contains_iff]

/-! ## Two sets -/

theorem among_union : value.Among (union left right) ↔ value.Among left ∨ value.Among right := by
  unfold union
  induction right generalizing left with
  | nil => simp
  | cons first rest ih =>
      rw [List.foldl_cons, ih, among_insert, among_cons, or_comm (b := value.Among left), or_assoc]

theorem among_intersection :
    value.Among (intersection left right) ↔ value.Among left ∧ value.Among right := by
  unfold intersection
  split
  · exact among_filter_contains.trans and_comm
  · exact among_filter_contains

theorem among_difference :
    value.Among (difference left right) ↔ value.Among left ∧ ¬value.Among right := by
  unfold difference
  rw [among_filter fun same => congrArg not (contains_congr same), Bool.not_eq_true',
    ← Bool.not_eq_true, contains_iff]

/-! ## Many sets -/

theorem among_foldl_union {sets : List (List Value)} :
    value.Among (sets.foldl union members) ↔
      value.Among members ∨ ∃ set ∈ sets, value.Among set := by
  induction sets generalizing members with
  | nil => simp
  | cons first rest ih =>
      rw [List.foldl_cons, ih, among_union, or_assoc]
      simp only [List.mem_cons, exists_eq_or_imp]

/-- **The union of many sets has the values of each.** -/
theorem among_unionAll {sets : List (List Value)} :
    value.Among (unionAll sets) ↔ ∃ set ∈ sets, value.Among set := by
  rw [unionAll, among_foldl_union, or_iff_right not_among_nil]

theorem among_foldl_intersection {sets : List (List Value)} :
    value.Among (sets.foldl intersection members) ↔
      value.Among members ∧ ∀ set ∈ sets, value.Among set := by
  induction sets generalizing members with
  | nil => simp
  | cons first rest ih =>
      rw [List.foldl_cons, ih, among_intersection, and_assoc, List.forall_mem_cons]

/-- **The intersection of many sets has the values that all of them have,** if there is any set. -/
theorem among_intersectionAll {sets : List (List Value)} (some : sets ≠ []) :
    value.Among (intersectionAll sets) ↔ ∀ set ∈ sets, value.Among set := by
  obtain ⟨first, rest, rfl⟩ := List.exists_cons_of_ne_nil some
  rw [intersectionAll, among_foldl_intersection, List.forall_mem_cons]

end Rego.Members
