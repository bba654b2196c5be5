import Rego.Proofs.Double.Order
import Rego.Number.Basic

/-!
# The order of numbers

The comparison of two numbers takes one of two routes: integers are compared exactly, and any other
pair through the order keys of both sides, which are doubles and lose digits. Both routes agree with
one linear order, in which a number stands at its exact value in units, with the negative infinity
and NaNs before and the positive ones after all of these (`compare_eq_place`). So the comparison is
a linear preorder (`instTransCmp`), in every mixture of representations.
-/

namespace Rego.Number

set_option autoImplicit false

open Double

/-- The exact value of a finite number in units. -/
def units? : Number → Option Int
  | .word value => some (value.toInt * unitsPerOne)
  | .big value => some (value * unitsPerOne)
  | .float value => value.units?

/-- Where a number stands: first whether it is below, among or above the finite ones, and then its
exact value, or its position among the others. -/
def place (number : Number) : Int × Int :=
  match number.units? with
  | some units => (0, units)
  | none => (if number.orderKey.signBit then -1 else 1, number.orderKey.position)

/-! ## Integers, fractions and the rest -/

theorem signed_mul (negative : Bool) (magnitude factor : Nat) :
    signed negative magnitude * (factor : Int) = signed negative (magnitude * factor) := by
  cases negative <;> simp [signed]

theorem signed_natAbs (value : Int) : signed (value < 0) value.natAbs = value := by
  unfold signed
  split <;> rename_i sign <;> rw [decide_eq_true_eq] at sign <;> omega

/-- A number of integral value has that many times the units of one. -/
theorem units?_of_toInt? {number : Number} {whole : Int} (integral : number.toInt? = some whole) :
    number.units? = some (whole * unitsPerOne) := by
  cases number with
  | word value => cases integral; rfl
  | big value => cases integral; rfl
  | float value =>
      cases value with
      | notNumber _ _ => cases integral
      | infinite _ => cases integral
      | finite negative rank =>
          simp only [toInt?, Double.toInt?, Option.ite_none_right_eq_some, Option.some.injEq]
            at integral
          obtain ⟨divides, rfl⟩ := integral
          rw [signed_mul, Nat.div_mul_cancel (Nat.dvd_of_mod_eq_zero divides)]
          rfl

theorem exists_units? {number : Number} (finite : number.isFinite = true) :
    ∃ units, number.units? = some units := by
  cases number with
  | word value => exact ⟨_, rfl⟩
  | big value => exact ⟨_, rfl⟩
  | float value =>
      cases value with
      | finite negative rank => exact ⟨_, rfl⟩
      | notNumber negative payload => cases finite
      | infinite negative => cases finite

/-- A finite number without integral value is a double with a fraction. -/
theorem exists_fraction {number : Number} {units : Int} (finite : number.units? = some units)
    (fractional : number.toInt? = none) :
    ∃ negative rank, number = .float (.finite negative rank) ∧
      unitsOfRank rank % unitsPerOne ≠ 0 ∧ units = signed negative (unitsOfRank rank) := by
  cases number with
  | word value => cases fractional
  | big value => cases fractional
  | float value =>
      cases value with
      | notNumber _ _ => cases finite
      | infinite _ => cases finite
      | finite negative rank =>
          cases finite
          refine ⟨negative, rank, rfl, ?_, rfl⟩
          simpa [toInt?, Double.toInt?] using fractional

theorem toInt?_of_units?_none {number : Number} (infinite : number.units? = none) :
    number.toInt? = none := by
  cases h : number.toInt? with
  | none => rfl
  | some whole => rw [units?_of_toInt? h] at infinite; cases infinite

/-! ## Order keys -/

theorem ofInt_word (value : Int64) :
    ∃ bound, Double.ofInt value.toInt = .finite (value.toInt < 0)
      ⟨rankOfUnits (value.toInt.natAbs * unitsPerOne) 1, bound⟩ := by
  have low : -2 ^ 63 ≤ value.toInt := Int64.le_toInt value
  have high : value.toInt < 2 ^ 63 := Int64.toInt_lt value
  refine ⟨rankOfUnits_whole_lt (by omega), ?_⟩
  unfold Double.ofInt ofRatio ofRank
  rw [dif_pos]

/-- **The key of an integer stands on the right side of every fraction.** -/
theorem compare_key_of_whole {number : Number} {whole : Int}
    (integral : number.toInt? = some whole) (negative : Bool) {rank : Fin (2047 * 2 ^ 52)}
    (fraction : unitsOfRank rank % unitsPerOne ≠ 0) :
    totalCompare number.orderKey (.finite negative rank) =
      Ord.compare (whole * unitsPerOne) (signed negative (unitsOfRank rank)) := by
  have some : 0 < rank.val := rank_pos_of_fraction fraction
  have more : 0 < unitsOfRank rank := unitsOfRank_pos some
  cases number with
  | word value =>
      cases integral
      obtain ⟨bound, key⟩ := ofInt_word value
      have same := compare_rank_of_whole value.toInt.natAbs fraction
      rw [totalCompare, orderKey, key,
        @compare_position_of_compare _ _ ⟨_, bound⟩ rank _ _ same some more, ← signed_mul,
        signed_natAbs]
  | @big value outside =>
      obtain rfl : value = whole := Option.some.inj integral
      have large : 2 ^ 63 ≤ value.natAbs := by
        unfold FitsWord at outside
        omega
      have beyond : unitsOfRank rank < value.natAbs * unitsPerOne :=
        calc unitsOfRank rank < 2 ^ 52 * unitsPerOne := unitsOfRank_lt_of_fraction fraction
          _ ≤ value.natAbs * unitsPerOne := Nat.mul_le_mul_right _ (by omega)
      have last : rank.val < 2047 * 2 ^ 52 - 1 := by
        have here := unitsOfRank_lt_of_fraction fraction
        rw [← @unitsOfRank_power 52 (by decide), unitsOfRank_lt_iff] at here
        unfold unitExponent at here
        omega
      have same : Ord.compare (2047 * 2 ^ 52 - 1) rank.val =
          Ord.compare (value.natAbs * unitsPerOne) (unitsOfRank rank) := by
        rw [Nat.compare_eq_gt.mpr last, Nat.compare_eq_gt.mpr beyond]
      rw [totalCompare, orderKey, largest, compare_position_of_compare same some more, ← signed_mul,
        signed_natAbs]
  | float value =>
      cases value with
      | notNumber _ _ => cases integral
      | infinite _ => cases integral
      | finite sign key =>
          have units := units?_of_toInt? integral
          simp only [units?, Double.units?, Option.some.injEq] at units
          rw [totalCompare, orderKey, compare_position_finite _ _ _ _ some, units]

/-- The key of a finite number is a finite double. -/
theorem exists_finite_key {number : Number} {units : Int} (finite : number.units? = some units) :
    ∃ negative rank, number.orderKey = .finite negative rank := by
  cases number with
  | word value =>
      obtain ⟨bound, key⟩ := ofInt_word value
      exact ⟨_, _, key⟩
  | big value => exact ⟨_, _, rfl⟩
  | float value =>
      cases value with
      | notNumber _ _ => cases finite
      | infinite _ => cases finite
      | finite negative rank => exact ⟨negative, rank, rfl⟩

/-- Positions of finite doubles stay within the infinities. -/
theorem position_finite_bounds (negative : Bool) (rank : Fin (2047 * 2 ^ 52)) :
    -(rankBound : Int) ≤ (Double.finite negative rank).position ∧
      (Double.finite negative rank).position < rankBound := by
  have bound := rank.isLt
  unfold position signBit magnitudeBits rankBound
  cases negative <;> simp only [if_true, Bool.false_eq_true, if_false] <;> omega

/-- A number without exact value stands at the infinity of its sign or beyond it. -/
theorem position_infinite_bounds {number : Number} (infinite : number.units? = none) :
    if number.orderKey.signBit then number.orderKey.position < -(rankBound : Int)
    else (rankBound : Int) ≤ number.orderKey.position := by
  cases number with
  | word value => cases infinite
  | big value => cases infinite
  | float value =>
      cases value with
      | notNumber negative payload =>
          cases negative <;> simp only [orderKey, position, signBit, magnitudeBits, if_true,
            Bool.false_eq_true, if_false] <;> omega
      | infinite negative =>
          cases negative <;> simp only [orderKey, position, signBit, magnitudeBits, if_true,
            Bool.false_eq_true, if_false] <;> omega
      | finite negative rank => cases infinite

/-! ## The linear order -/

theorem compare_scaled (left right : Int) :
    Ord.compare (left * unitsPerOne) (right * unitsPerOne) = Ord.compare left right := by
  have positive : 0 < (unitsPerOne : Int) := Int.natCast_pos.mpr unitsPerOne_pos
  simp only [Int.compare_eq_ite_le, Int.mul_le_mul_iff_of_pos_right positive]

theorem totalCompare_swap (left right : Double) :
    (totalCompare left right).swap = totalCompare right left :=
  Std.OrientedOrd.eq_swap.symm

theorem place_of_units? {number : Number} {units : Int} (finite : number.units? = some units) :
    number.place = (0, units) := by
  unfold place
  rw [finite]

theorem compare_keys_of_fraction (left : Number) {units : Int} (finite : left.units? = some units)
    {negative : Bool} {rank : Fin (2047 * 2 ^ 52)}
    (fraction : unitsOfRank rank % unitsPerOne ≠ 0) :
    totalCompare left.orderKey (.finite negative rank) =
      Ord.compare units (signed negative (unitsOfRank rank)) := by
  cases integral : left.toInt? with
  | some whole =>
      rw [units?_of_toInt? integral] at finite
      cases finite
      exact compare_key_of_whole integral negative fraction
  | none =>
      obtain ⟨sign, key, rfl, _, rfl⟩ := exists_fraction finite integral
      exact compare_position_finite _ _ _ _ (rank_pos_of_fraction fraction)

/-- A finite number is on the inner side of every number without exact value. -/
theorem compare_keys_of_infinite {left right : Number} {units : Int}
    (finite : left.units? = some units) (infinite : right.units? = none) :
    totalCompare left.orderKey right.orderKey =
      Ord.compare 0 (if right.orderKey.signBit then (-1 : Int) else 1) := by
  obtain ⟨negative, rank, key⟩ := exists_finite_key finite
  obtain ⟨low, high⟩ := position_finite_bounds negative rank
  have outside := position_infinite_bounds infinite
  rw [totalCompare, key]
  split at outside <;> rename_i sign <;> simp only [sign, Bool.false_eq_true, if_true, if_false]
  · exact Int.compare_eq_gt.mpr (by omega)
  · exact Int.compare_eq_lt.mpr (by omega)

/-! ## Both routes -/

/-- Finite numbers compare like their exact values, whichever route is taken. -/
theorem compare_of_units? {left right : Number} {leftUnits rightUnits : Int}
    (one : left.units? = some leftUnits) (two : right.units? = some rightUnits) :
    left.compare right = Ord.compare leftUnits rightUnits := by
  unfold Number.compare
  cases leftWhole : left.toInt? with
  | some leftInt =>
      rw [units?_of_toInt? leftWhole] at one
      cases one
      cases rightWhole : right.toInt? with
      | some rightInt =>
          rw [units?_of_toInt? rightWhole] at two
          cases two
          exact (compare_scaled _ _).symm
      | none =>
          obtain ⟨sign, rank, rfl, fraction, rfl⟩ := exists_fraction two rightWhole
          exact compare_key_of_whole leftWhole sign fraction
  | none =>
      obtain ⟨sign, rank, rfl, fraction, rfl⟩ := exists_fraction one leftWhole
      have flipped := @compare_keys_of_fraction right _ two sign rank fraction
      simp only []
      rw [← totalCompare_swap, orderKey, flipped]
      exact Std.OrientedOrd.eq_swap.symm

/-- With a number that is not finite, the order keys are compared. -/
theorem compare_of_infinite {left right : Number}
    (infinite : left.units? = none ∨ right.units? = none) :
    left.compare right = totalCompare left.orderKey right.orderKey := by
  unfold Number.compare
  rcases infinite with infinite | infinite
  · rw [toInt?_of_units?_none infinite]
  · rw [toInt?_of_units?_none infinite]
    cases left.toInt? <;> rfl

/-- Numbers that are not finite compare like their places. -/
theorem compare_keys_eq_place {left right : Number} (one : left.units? = none)
    (two : right.units? = none) : totalCompare left.orderKey right.orderKey =
      (Ord.compare left.place.1 right.place.1).then (Ord.compare left.place.2 right.place.2) := by
  have leftOutside := position_infinite_bounds one
  have rightOutside := position_infinite_bounds two
  rw [place, place, one, two, totalCompare]
  split at leftOutside <;> rename_i leftSign <;> split at rightOutside <;>
    rename_i rightSign <;>
    simp only [leftSign, rightSign, Bool.false_eq_true, if_true, if_false]
  · rfl
  · exact Int.compare_eq_lt.mpr (by omega)
  · exact Int.compare_eq_gt.mpr (by omega)
  · rfl

/-- **The comparison of numbers is the comparison of their places.** -/
theorem compare_eq_place (left right : Number) :
    left.compare right =
      (Ord.compare left.place.1 right.place.1).then (Ord.compare left.place.2 right.place.2) := by
  cases one : left.units? with
  | some leftUnits =>
      cases two : right.units? with
      | some rightUnits =>
          rw [compare_of_units? one two, place_of_units? one, place_of_units? two]
          rfl
      | none =>
          rw [compare_of_infinite (.inr two), compare_keys_of_infinite one two,
            place_of_units? one, place, two]
          cases right.orderKey.signBit <;> rfl
  | none =>
      rw [compare_of_infinite (.inl one)]
      cases two : right.units? with
      | some rightUnits =>
          rw [← totalCompare_swap, compare_keys_of_infinite two one, place_of_units? two, place,
            one]
          cases left.orderKey.signBit <;> rfl
      | none => exact compare_keys_eq_place one two

/-- The comparison of numbers is a linear preorder. -/
instance instTransCmp : Std.TransCmp Number.compare := by
  have same : Number.compare =
      compareLex (compareOn fun number => number.place.1)
        (compareOn fun number => number.place.2) :=
    funext fun left => funext fun right => compare_eq_place left right
  rw [same]
  infer_instance

end Rego.Number
