import Rego.Proofs.Number.Order
import Rego.Value.Basic

/-!
# The order of values

The order of values is a linear preorder: comparing the other way round gives the opposite answer
(`compare_swap`), and ascending chains compose (`chain_compare`). Equality goes through both values
on its own and agrees with the order on all of them (`equals_eq_compare`). Containers compare entry
by entry, so the two laws are proved for values, item lists and field lists together, by induction
on the left value; the numbers in the leaves have them by `Number.instTransCmp`.
-/

namespace Rego

set_option autoImplicit false

/-! ## Chains of comparisons -/

/-- The comparison of the ends of an ascending chain is that of its first strict link. -/
def Chain (first second whole : Ordering) : Prop :=
  first ≠ .gt → second ≠ .gt → whole = first.then second

namespace Chain

/-- Chains may be compared one component after the other. -/
theorem lexicographic {first second whole first' second' whole' : Ordering}
    (major : Chain first second whole) (minor : Chain first' second' whole') :
    Chain (first.then first') (second.then second') (whole.then whole') := by
  intro left right
  cases first with
  | gt => exact absurd rfl left
  | lt =>
      cases second with
      | gt => exact absurd rfl right
      | lt => rw [major nofun nofun]; rfl
      | eq => rw [major nofun nofun]; rfl
  | eq =>
      cases second with
      | gt => exact absurd rfl right
      | lt =>
          rw [major nofun nofun]
          cases first' with
          | gt => exact absurd rfl left
          | lt => rfl
          | eq => rfl
      | eq =>
          rw [major nofun nofun]
          exact minor left right

theorem of_transCmp {α : Type} (cmp : α → α → Ordering) [Std.TransCmp cmp]
    (first second third : α) : Chain (cmp first second) (cmp second third) (cmp first third) := by
  intro left right
  cases one : cmp first second with
  | gt => exact absurd one left
  | lt =>
      cases two : cmp second third with
      | gt => exact absurd two right
      | lt => exact Std.TransCmp.lt_trans one two
      | eq => exact Std.TransCmp.lt_of_lt_of_eq one two
  | eq =>
      cases two : cmp second third with
      | gt => exact absurd two right
      | lt => exact Std.TransCmp.lt_of_eq_of_lt one two
      | eq => exact Std.TransCmp.eq_trans one two

theorem isLE {first second whole : Ordering} (chain : Chain first second whole)
    (left : first.isLE) (right : second.isLE) : whole.isLE := by
  rw [chain (by rintro rfl; cases left) (by rintro rfl; cases right)]
  cases first <;> simp_all

end Chain

namespace Value

/-! ## Values of different kinds -/

theorem rank_injective {left right : Kind} (same : left.rank = right.rank) : left = right := by
  cases left <;> cases right <;> first | rfl | cases same

theorem compare_of_kind_ne {left right : Value} (different : left.kind ≠ right.kind) :
    left.compare right = Ord.compare left.kind.rank right.kind.rank := by
  cases left <;> cases right <;> first | rfl | exact absurd rfl different

theorem compare_of_rank_lt {left right : Value} (less : left.kind.rank < right.kind.rank) :
    left.compare right = .lt := by
  have different : left.kind ≠ right.kind := fun same => by rw [same] at less; omega
  rw [compare_of_kind_ne different, Nat.compare_eq_lt.mpr less]

theorem rank_le_of_compare_ne_gt {left right : Value} (ascending : left.compare right ≠ .gt) :
    left.kind.rank ≤ right.kind.rank := by
  by_contra more
  have different : left.kind ≠ right.kind := fun same => by rw [same] at more; omega
  rw [compare_of_kind_ne different] at ascending
  exact ascending (Nat.compare_eq_gt.mpr (Nat.lt_of_not_le more))

/-- Chains through different kinds compose, so only values of one kind have to be looked at. -/
theorem chain_of_kinds {first second third : Value}
    (same : first.kind = second.kind → second.kind = third.kind →
      Chain (first.compare second) (second.compare third) (first.compare third)) :
    Chain (first.compare second) (second.compare third) (first.compare third) := by
  by_cases one : first.kind = second.kind
  · by_cases two : second.kind = third.kind
    · exact same one two
    · intro left right
      have less : second.kind.rank < third.kind.rank :=
        Nat.lt_of_le_of_ne (rank_le_of_compare_ne_gt right) fun equal => two (rank_injective equal)
      rw [compare_of_rank_lt less, compare_of_rank_lt (one ▸ less)]
      cases h : first.compare second with
      | gt => exact absurd h left
      | lt => rfl
      | eq => rfl
  · intro left right
    have less : first.kind.rank < second.kind.rank :=
      Nat.lt_of_le_of_ne (rank_le_of_compare_ne_gt left) fun equal => one (rank_injective equal)
    have later := rank_le_of_compare_ne_gt right
    rw [compare_of_rank_lt less, compare_of_rank_lt (Nat.lt_of_lt_of_le less later)]
    rfl

/-! ## The laws of the order -/

mutual

/-- Comparing the other way round gives the opposite answer. -/
theorem compare_swap : ∀ left right : Value, right.compare left = (left.compare right).swap
  | .null, right => by cases right <;> rfl
  | .undefined, right => by cases right <;> rfl
  | .bool payload, right => by
      cases right with
      | bool other => exact Std.OrientedOrd.eq_swap
      | _ => rfl
  | .number payload, right => by
      cases right with
      | number other => exact @Std.OrientedCmp.eq_swap _ Number.compare _ _ _
      | _ => rfl
  | .string payload, right => by
      cases right with
      | string other => exact Std.OrientedOrd.eq_swap
      | _ => rfl
  | .array items, right => by
      cases right with
      | array others => exact compareItems_swap items others
      | _ => rfl
  | .object fields, right => by
      cases right with
      | object others => exact compareFields_swap fields others
      | _ => rfl
  | .set members, right => by
      cases right with
      | set others => exact compareItems_swap members others
      | _ => rfl

theorem compareItems_swap : ∀ left right : List Value,
    compareItems right left = (compareItems left right).swap
  | [], right => by cases right <;> rfl
  | item :: rest, right => by
      cases right with
      | nil => rfl
      | cons other others =>
          simp only [compareItems, Ordering.swap_then]
          rw [compare_swap item other, compareItems_swap rest others]

theorem compareFields_swap : ∀ left right : List (Value × Value),
    compareFields right left = (compareFields left right).swap
  | [], right => by cases right <;> rfl
  | (key, value) :: rest, right => by
      cases right with
      | nil => rfl
      | cons other others =>
          obtain ⟨otherKey, otherValue⟩ := other
          simp only [compareFields, Ordering.swap_then]
          rw [compare_swap key otherKey, compare_swap value otherValue,
            compareFields_swap rest others]

end

mutual

/-- Ascending chains of values compose. -/
theorem chain_compare : ∀ first second third : Value,
    Chain (first.compare second) (second.compare third) (first.compare third)
  | .null, second, third => chain_of_kinds fun one two => by
      cases second <;> cases one
      cases third <;> cases two
      exact fun _ _ => rfl
  | .undefined, second, third => chain_of_kinds fun one two => by
      cases second <;> cases one
      cases third <;> cases two
      exact fun _ _ => rfl
  | .bool _, second, third => chain_of_kinds fun one two => by
      cases second <;> cases one
      cases third <;> cases two
      exact Chain.of_transCmp Ord.compare _ _ _
  | .number _, second, third => chain_of_kinds fun one two => by
      cases second <;> cases one
      cases third <;> cases two
      exact Chain.of_transCmp Number.compare _ _ _
  | .string _, second, third => chain_of_kinds fun one two => by
      cases second <;> cases one
      cases third <;> cases two
      exact Chain.of_transCmp Ord.compare _ _ _
  | .array items, second, third => chain_of_kinds fun one two => by
      cases second <;> cases one
      cases third <;> cases two
      exact chain_compareItems items _ _
  | .object fields, second, third => chain_of_kinds fun one two => by
      cases second <;> cases one
      cases third <;> cases two
      exact chain_compareFields fields _ _
  | .set members, second, third => chain_of_kinds fun one two => by
      cases second <;> cases one
      cases third <;> cases two
      exact chain_compareItems members _ _

theorem chain_compareItems : ∀ first second third : List Value,
    Chain (compareItems first second) (compareItems second third) (compareItems first third)
  | [], second, third => by
      cases second <;> cases third <;> intro left right <;>
        first | rfl | exact absurd rfl right
  | item :: rest, second, third => by
      cases second with
      | nil => exact fun left _ => absurd rfl left
      | cons item' rest' =>
          cases third with
          | nil => exact fun _ right => absurd rfl right
          | cons item'' rest'' =>
              exact (chain_compare item item' item'').lexicographic
                (chain_compareItems rest rest' rest'')

theorem chain_compareFields : ∀ first second third : List (Value × Value),
    Chain (compareFields first second) (compareFields second third) (compareFields first third)
  | [], second, third => by
      cases second <;> cases third <;> intro left right <;>
        first | rfl | exact absurd rfl right
  | (key, value) :: rest, second, third => by
      cases second with
      | nil => exact fun left _ => absurd rfl left
      | cons field' rest' =>
          cases third with
          | nil => exact fun _ right => absurd rfl right
          | cons field'' rest'' =>
              exact (chain_compare key field'.1 field''.1).lexicographic
                ((chain_compare value field'.2 field''.2).lexicographic
                  (chain_compareFields rest rest' rest''))

end

/-- The order of values is a linear preorder. -/
instance instTransCmp : Std.TransCmp Value.compare where
  eq_swap := compare_swap _ _
  isLE_trans := (chain_compare _ _ _).isLE

@[simp] theorem compare_self (value : Value) : value.compare value = .eq := Std.ReflCmp.compare_self

/-! ## Equality -/

theorem then_beq_eq (major minor : Ordering) :
    (major.then minor == .eq) = (major == .eq && minor == .eq) := by
  cases major <;> cases minor <;> rfl

mutual

/-- **Values are equal exactly when the order does not tell them apart.** -/
theorem equals_eq_compare : ∀ left right : Value,
    left.equals right = (left.compare right == .eq)
  | .null, right => by cases right <;> rfl
  | .undefined, right => by cases right <;> rfl
  | .bool payload, right => by
      cases right with
      | bool other => exact Std.LawfulBEqOrd.compare_beq_eq_beq.symm
      | _ => rfl
  | .number payload, right => by cases right <;> rfl
  | .string payload, right => by
      cases right with
      | string other => exact Std.LawfulBEqOrd.compare_beq_eq_beq.symm
      | _ => rfl
  | .array items, right => by
      cases right with
      | array others => exact equalItems_eq_compareItems items others
      | _ => rfl
  | .object fields, right => by
      cases right with
      | object others => exact equalFields_eq_compareFields fields others
      | _ => rfl
  | .set members, right => by
      cases right with
      | set others => exact equalItems_eq_compareItems members others
      | _ => rfl

theorem equalItems_eq_compareItems : ∀ left right : List Value,
    equalItems left right = (compareItems left right == .eq)
  | [], right => by cases right <;> rfl
  | item :: rest, right => by
      cases right with
      | nil => rfl
      | cons other others =>
          simp only [equalItems, compareItems, then_beq_eq]
          rw [equals_eq_compare item other, equalItems_eq_compareItems rest others]

theorem equalFields_eq_compareFields : ∀ left right : List (Value × Value),
    equalFields left right = (compareFields left right == .eq)
  | [], right => by cases right <;> rfl
  | (key, value) :: rest, right => by
      cases right with
      | nil => rfl
      | cons other others =>
          simp only [equalFields, compareFields, then_beq_eq]
          rw [equals_eq_compare key other.1, equals_eq_compare value other.2,
            equalFields_eq_compareFields rest others, Bool.and_assoc]

end

theorem equals_iff {left right : Value} :
    left.equals right = true ↔ left.compare right = .eq := by
  rw [equals_eq_compare, beq_iff_eq]

end Value

end Rego
