import Mathlib.Data.List.Sort
import Rego.Proofs.Value.Canonical

/-!
# Values up to equality

Values that are equal may be written differently. The class of a value forgets how it is written:
two values are equal when they have one class, and two lists are equal item by item when they have
one list of classes (`map_classOf_eq_iff`). The order of values is an order of classes, and there it
tells apart whatever differs. So what is known of sorted lists holds of lists of values up to
equality: strictly ascending ones are determined by the values among them
(`equalItems_of_among_iff`), ascending ones by what they are rearrangements of
(`equalItems_of_perm`).
-/

namespace Rego.Value

set_option autoImplicit false

variable {value other : Value} {left right : List Value}

/-! ## Classes -/

/-- Equality of values. -/
def equality : Setoid Value where
  r left right := left.equals right = true
  iseqv := ⟨equals_refl, equals_symm, equals_trans⟩

/-- A value up to equality. -/
abbrev Class := Quotient equality

/-- The class of a value. -/
def classOf (value : Value) : Class := Quotient.mk equality value

theorem classOf_eq_iff : classOf value = classOf other ↔ value.equals other = true := Quotient.eq

/-- **Lists are equal item by item when they have the same classes.** -/
theorem map_classOf_eq_iff :
    left.map classOf = right.map classOf ↔ equalItems left right = true := by
  induction left generalizing right with
  | nil => cases right <;> simp [equalItems]
  | cons item rest ih =>
      cases right with
      | nil => simp [equalItems]
      | cons other others => simp [equalItems, classOf_eq_iff, ih]

/-- Values that do not come after each other are equal. -/
theorem equals_of_compare_ne_gt (one : value.compare other ≠ .gt)
    (two : other.compare value ≠ .gt) : value.equals other = true := by
  refine equals_iff.mpr ?_
  have swapped : other.compare value = (value.compare other).swap := compare_swap value other
  cases known : value.compare other with
  | lt => exact absurd (swapped.trans (congrArg Ordering.swap known)) two
  | eq => rfl
  | gt => exact absurd known one

namespace Class

/-- The order of classes. -/
def compare : Class → Class → Ordering :=
  Quotient.lift₂ Value.compare fun _ _ _ _ one two =>
    (Std.TransCmp.congr_left (equals_iff.mp one)).trans
      (Std.TransCmp.congr_right (equals_iff.mp two))

/-- One class comes strictly before another. -/
def Less (left right : Class) : Prop := compare left right = .lt

/-- One class does not come after another. -/
def AtMost (left right : Class) : Prop := compare left right ≠ .gt

/-- Classes that do not come after each other are one. -/
theorem AtMost.antisymm {left right : Class} (one : AtMost left right) (two : AtMost right left) :
    left = right := by
  induction left using Quotient.ind with
  | _ value =>
  induction right using Quotient.ind with
  | _ other => exact classOf_eq_iff.mpr (equals_of_compare_ne_gt one two)

instance : Std.Antisymm Less where
  antisymm left right one two := by
    have ascends : ∀ {first second : Class}, Less first second → AtMost first second :=
      fun less more => by cases less.symm.trans more
    exact (ascends one).antisymm (ascends two)

instance : Std.Irrefl Less where
  irrefl := Quotient.ind fun value less => by
    have same : value.compare value = .lt := less
    rw [compare_self] at same
    cases same

end Class

/-! ## Being among values -/

/-- A value is among others when it equals one of them. -/
def Among (value : Value) (others : List Value) : Prop :=
  ∃ other ∈ others, value.equals other = true

theorem among_iff_classOf_mem : value.Among left ↔ classOf value ∈ left.map classOf := by
  rw [Among, List.mem_map]
  exact exists_congr fun other => and_congr_right fun _ => classOf_eq_iff.symm.trans eq_comm

@[simp]
theorem not_among_nil : ¬value.Among [] := by
  rintro ⟨_, within, _⟩
  cases within

@[simp]
theorem among_cons :
    value.Among (other :: left) ↔ value.equals other = true ∨ value.Among left := by
  simp only [Among, List.mem_cons, exists_eq_or_imp]

theorem among_of_mem (within : value ∈ left) : value.Among left :=
  ⟨value, within, equals_refl value⟩

/-- Equal values are among the same ones. -/
theorem among_congr (same : value.equals other = true) : value.Among left ↔ other.Among left := by
  rw [among_iff_classOf_mem, among_iff_classOf_mem, classOf_eq_iff.mpr same]

/-- The same values are among lists that are equal item by item. -/
theorem among_congr_right (same : equalItems left right = true) :
    value.Among left ↔ value.Among right := by
  rw [among_iff_classOf_mem, among_iff_classOf_mem, map_classOf_eq_iff.mpr same]

/-- **Strictly ascending lists are equal if the same values are among them.** -/
theorem equalItems_of_among_iff (ascending : Members.Ascending left)
    (ascending' : Members.Ascending right)
    (same : ∀ value : Value, value.Among left ↔ value.Among right) :
    equalItems left right = true := by
  have classes : ∀ form : Class, form ∈ left.map classOf ↔ form ∈ right.map classOf :=
    Quotient.ind fun value =>
      among_iff_classOf_mem.symm.trans ((same value).trans among_iff_classOf_mem)
  exact map_classOf_eq_iff.mp (List.Pairwise.eq_of_mem_iff (r := Class.Less)
    (List.pairwise_map.mpr ascending) (List.pairwise_map.mpr ascending') classes)

/-- **Ascending lists are equal if they are rearrangements of each other.** -/
theorem equalItems_of_perm
    (ascending : left.Pairwise fun first second => first.compare second ≠ .gt)
    (ascending' : right.Pairwise fun first second => first.compare second ≠ .gt)
    (perm : left.Perm right) : equalItems left right = true := by
  have first : (left.map classOf).Pairwise Class.AtMost := List.pairwise_map.mpr ascending
  have second : (right.map classOf).Pairwise Class.AtMost := List.pairwise_map.mpr ascending'
  exact map_classOf_eq_iff.mp (List.Perm.eq_of_pairwise (fun _ _ _ _ => Class.AtMost.antisymm)
    first second (perm.map classOf))

end Rego.Value
