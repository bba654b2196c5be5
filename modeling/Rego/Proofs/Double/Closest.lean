import Mathlib.Algebra.Order.Field.Rat
import Mathlib.Algebra.Order.Ring.Abs
import Mathlib.Tactic.FieldSimp
import Rego.Double.Decimal
import Rego.Proofs.Double.Order
import Rego.Proofs.Text.Digits

/-!
# The closest double

A double is nearest to a rational value if no other one is closer, and if none is equally close
unless the significand is even; a value is out of range if its closest rank is past the last finite
one (`IsNearest`). The ranks that rounding gives are the closest ones (`closest_rankOfUnits`), also
where a decimal is so large or so small that it is not computed at all (`isNearest_ofDecimal`). An
integer is out of range from the midpoint between the largest double and the next power of two on
(`rankOfUnits_whole_lt_iff`).
-/

namespace Rego.Double

set_option autoImplicit false

/-! ## Distances -/

/-- The magnitude with a rank; ranks past the last finite one continue the scale. -/
def magnitudeOfRank (rank : Nat) : ℚ := unitsOfRank rank / unitsPerOne

/-- No rank is closer to a magnitude, and none is equally close unless the significand is even. -/
def Closest (rank : Nat) (magnitude : ℚ) : Prop :=
  ∀ other ≠ rank, |magnitude - magnitudeOfRank rank| < |magnitude - magnitudeOfRank other| ∨
    |magnitude - magnitudeOfRank rank| = |magnitude - magnitudeOfRank other| ∧ rank % 2 = 0

/-- A double is nearest to a value, given by sign and magnitude: it has the sign and the closest
rank, where ranks past the last finite one stand for the infinity. -/
def IsNearest (value : Double) (negative : Bool) (magnitude : ℚ) : Prop :=
  ∃ rank, Closest rank magnitude ∧ value = ofRank negative rank

theorem abs_sub_lt_abs_sub_iff (middle near far : ℚ) :
    |middle - near| < |middle - far| ↔ 0 < (far - near) * (near + far - 2 * middle) := by
  rw [← sq_lt_sq, ← sub_pos]
  have expanded : (middle - far) ^ 2 - (middle - near) ^ 2 =
      (far - near) * (near + far - 2 * middle) := by ring
  rw [expanded]

theorem abs_sub_eq_of_midpoint {middle near far : ℚ} (midpoint : 2 * middle = near + far) :
    |middle - near| = |middle - far| := by
  rw [← abs_neg (middle - far)]
  congr 1
  linarith

variable {numerator denominator : Nat}

/-- On which side of a midpoint a quotient lies can be told in units. -/
theorem lt_midpoint_iff (positive : 0 < denominator) (left right : Nat) :
    2 * ((numerator : ℚ) / denominator) < magnitudeOfRank left + magnitudeOfRank right ↔
      2 * (numerator * unitsPerOne) < (unitsOfRank left + unitsOfRank right) * denominator := by
  have scale : (0 : ℚ) < denominator := Nat.cast_pos.mpr positive
  have unit : (0 : ℚ) < unitsPerOne := Nat.cast_pos.mpr unitsPerOne_pos
  unfold magnitudeOfRank
  rw [← add_div, ← mul_div_assoc, div_lt_div_iff₀ scale unit, mul_assoc]
  exact_mod_cast Iff.rfl

theorem midpoint_lt_iff (positive : 0 < denominator) (left right : Nat) :
    magnitudeOfRank left + magnitudeOfRank right < 2 * ((numerator : ℚ) / denominator) ↔
      (unitsOfRank left + unitsOfRank right) * denominator < 2 * (numerator * unitsPerOne) := by
  have scale : (0 : ℚ) < denominator := Nat.cast_pos.mpr positive
  have unit : (0 : ℚ) < unitsPerOne := Nat.cast_pos.mpr unitsPerOne_pos
  unfold magnitudeOfRank
  rw [← add_div, ← mul_div_assoc, div_lt_div_iff₀ unit scale, mul_assoc]
  exact_mod_cast Iff.rfl

theorem eq_midpoint_iff (positive : 0 < denominator) (left right : Nat) :
    2 * ((numerator : ℚ) / denominator) = magnitudeOfRank left + magnitudeOfRank right ↔
      2 * (numerator * unitsPerOne) = (unitsOfRank left + unitsOfRank right) * denominator := by
  have scale : (denominator : ℚ) ≠ 0 := Nat.cast_ne_zero.mpr positive.ne'
  have unit : (unitsPerOne : ℚ) ≠ 0 := Nat.cast_ne_zero.mpr unitsPerOne_pos.ne'
  unfold magnitudeOfRank
  rw [← add_div, ← mul_div_assoc, div_eq_div_iff scale unit, mul_assoc]
  exact_mod_cast Iff.rfl

theorem magnitudeOfRank_lt_iff {low high : Nat} :
    magnitudeOfRank low < magnitudeOfRank high ↔ low < high := by
  have unit : (0 : ℚ) < unitsPerOne := Nat.cast_pos.mpr unitsPerOne_pos
  unfold magnitudeOfRank
  rw [div_lt_div_iff_of_pos_right unit, Nat.cast_lt, unitsOfRank_lt_iff]

theorem unitsOfRank_eq_zero_iff {rank : Nat} : unitsOfRank rank = 0 ↔ rank = 0 := by
  conv => lhs; rw [← unitsOfRank_zero, unitsOfRank_strictMono.injective.eq_iff]

/-- A rank between whose midpoints a quotient lies is closest to it. -/
theorem Nearest.closest {rank : Nat} (nearest : Nearest rank (numerator * unitsPerOne) denominator)
    (positive : 0 < denominator) : Closest rank (numerator / denominator) := by
  intro other different
  rcases Nat.lt_or_gt_of_ne different with less | more
  · have beyond : (unitsOfRank rank + unitsOfRank other) * denominator ≤
        (unitsOfRank (rank - 1) + unitsOfRank rank) * denominator := by
      rw [Nat.add_comm (unitsOfRank (rank - 1))]
      exact Nat.mul_le_mul_right _
        (Nat.add_le_add_left (unitsOfRank_le_iff.mpr (by omega)) _)
    rcases Nat.lt_or_eq_of_le (beyond.trans nearest.lower) with strict | tie
    · refine .inl ((abs_sub_lt_abs_sub_iff _ _ _).mpr (mul_pos_of_neg_of_neg ?_ ?_))
      · exact sub_neg.mpr (magnitudeOfRank_lt_iff.mpr less)
      · exact sub_neg.mpr ((midpoint_lt_iff positive rank other).mpr strict)
    · have lower := nearest.lower
      refine .inr ⟨abs_sub_eq_of_midpoint ((eq_midpoint_iff positive rank other).mpr tie.symm), ?_⟩
      exact nearest.even_of_midpoint (.inl (by omega))
  · have beyond : (unitsOfRank rank + unitsOfRank (rank + 1)) * denominator ≤
        (unitsOfRank rank + unitsOfRank other) * denominator :=
      Nat.mul_le_mul_right _ (Nat.add_le_add_left (unitsOfRank_le_iff.mpr (by omega)) _)
    rcases Nat.lt_or_eq_of_le (nearest.upper.trans beyond) with strict | tie
    · refine .inl ((abs_sub_lt_abs_sub_iff _ _ _).mpr (mul_pos ?_ ?_))
      · exact sub_pos.mpr (magnitudeOfRank_lt_iff.mpr more)
      · exact sub_pos.mpr ((lt_midpoint_iff positive rank other).mpr strict)
    · have upper := nearest.upper
      refine .inr ⟨abs_sub_eq_of_midpoint ((eq_midpoint_iff positive rank other).mpr tie), ?_⟩
      exact nearest.even_of_midpoint (.inr (by omega))

/-- **Rounding gives the closest rank.** -/
theorem closest_rankOfUnits (numerator : Nat) (positive : 0 < denominator) :
    Closest (rankOfUnits (numerator * unitsPerOne) denominator) (numerator / denominator) :=
  (nearest_rankOfUnits _ positive).closest positive

/-! ## Out of range -/

/-- The rank past the last finite one belongs to the next power of two. -/
theorem unitsOfRank_rankBound : unitsOfRank (2047 * 2 ^ 52) = 2 ^ 1024 * unitsPerOne :=
  @unitsOfRank_power 1024 (by decide)

/-- Twice the midpoint between the last two ranks of a binade above one. -/
theorem unitsOfRank_midpoint (power : Nat) :
    unitsOfRank ((power + unitExponent + 1) * 2 ^ 52 + (2 ^ 53 - 1)) +
        unitsOfRank ((power + unitExponent + 1) * 2 ^ 52 + 2 ^ 53) =
      2 * ((2 ^ 54 - 1) * 2 ^ power * unitsPerOne) := by
  rw [unitsOfRank_binade (by decide) (by decide), unitsOfRank_binade (by decide) (by decide),
    ← Nat.add_mul, Nat.pow_succ, Nat.pow_add, unitsPerOne_eq]
  ring

/-- Integers from this one on round to the infinity: the midpoint between the largest double and the
next power of two, `2 ^ 1024 - 2 ^ 970`. -/
def overflowBound : Nat := (2 ^ 54 - 1) * 2 ^ 970

theorem unitsOfRank_overflowBound :
    unitsOfRank (2047 * 2 ^ 52 - 1) + unitsOfRank (2047 * 2 ^ 52) =
      2 * (overflowBound * unitsPerOne) := by
  have last : 2047 * 2 ^ 52 - 1 = (970 + unitExponent + 1) * 2 ^ 52 + (2 ^ 53 - 1) := by decide
  have next : 2047 * 2 ^ 52 = (970 + unitExponent + 1) * 2 ^ 52 + 2 ^ 53 := by decide
  rw [last, next, unitsOfRank_midpoint, overflowBound]

/-- **An integer rounds to a finite double exactly if it is below the last midpoint.** -/
theorem rankOfUnits_whole_lt_iff (whole : Nat) :
    rankOfUnits (whole * unitsPerOne) 1 < 2047 * 2 ^ 52 ↔ whole < overflowBound := by
  have nearest := nearest_rankOfUnits (whole * unitsPerOne) Nat.one_pos
  generalize rankOfUnits (whole * unitsPerOne) 1 = rank at nearest
  have scaled : whole < overflowBound ↔ 2 * (whole * unitsPerOne) <
      unitsOfRank (2047 * 2 ^ 52 - 1) + unitsOfRank (2047 * 2 ^ 52) := by
    rw [unitsOfRank_overflowBound, Nat.mul_lt_mul_left Nat.two_pos,
      Nat.mul_lt_mul_right unitsPerOne_pos]
  rw [scaled]
  constructor
  · intro finite
    have beyond : unitsOfRank rank + unitsOfRank (rank + 1) ≤
        unitsOfRank (2047 * 2 ^ 52 - 1) + unitsOfRank (2047 * 2 ^ 52) :=
      Nat.add_le_add (unitsOfRank_le_iff.mpr (by omega)) (unitsOfRank_le_iff.mpr (by omega))
    have upper := nearest.upper
    rw [Nat.mul_one] at upper
    refine Nat.lt_of_le_of_ne (upper.trans beyond) fun tie => ?_
    -- The midpoint belongs to the power of two, as the last finite rank is odd.
    have even := nearest.even_of_midpoint (.inr (by rw [Nat.mul_one]; omega))
    have last : rank + 1 = 2047 * 2 ^ 52 := by
      by_contra before
      have short := unitsOfRank_lt_iff.mpr (show rank + 1 < 2047 * 2 ^ 52 by omega)
      have first := unitsOfRank_le_iff.mpr (show rank ≤ 2047 * 2 ^ 52 - 1 by omega)
      omega
    omega
  · intro below
    by_contra infinite
    have lower := nearest.lower
    rw [Nat.mul_one] at lower
    have beyond : unitsOfRank (2047 * 2 ^ 52 - 1) + unitsOfRank (2047 * 2 ^ 52) ≤
        unitsOfRank (rank - 1) + unitsOfRank rank :=
      Nat.add_le_add (unitsOfRank_le_iff.mpr (by omega)) (unitsOfRank_le_iff.mpr (by omega))
    omega

/-- A magnitude from the power of two past the largest double on is out of range. -/
theorem le_rankOfUnits_of_le (positive : 0 < denominator)
    (large : 2 ^ 1024 * denominator ≤ numerator) :
    2047 * 2 ^ 52 ≤ rankOfUnits (numerator * unitsPerOne) denominator := by
  rw [← rankOfUnits_unitsOfRank (2047 * 2 ^ 52), unitsOfRank_rankBound]
  refine rankOfUnits_le_of_le Nat.one_pos positive ?_
  calc 2 ^ 1024 * unitsPerOne * denominator
      = 2 ^ 1024 * denominator * unitsPerOne := Nat.mul_right_comm ..
    _ ≤ numerator * unitsPerOne := Nat.mul_le_mul_right _ large
    _ = numerator * unitsPerOne * 1 := (Nat.mul_one _).symm

/-- A magnitude of at most half a unit rounds to zero. -/
theorem rankOfUnits_eq_zero (positive : 0 < denominator) (small : 2 * numerator ≤ denominator) :
    rankOfUnits numerator denominator = 0 := by
  refine Nearest.unique positive (nearest_rankOfUnits numerator positive) ?_
  have one : unitsOfRank 1 = 1 := unitsOfRank_of_lt (by decide)
  simp only [Nearest, Nat.zero_mod, Nat.zero_sub, unitsOfRank_zero, one, if_true]
  omega

/-! ## Decimals -/

/-- The numerator and denominator of a decimal. -/
theorem ofDecimal_eq_ofRank (negative : Bool) (digits : Nat) (exponent : Int) :
    ofDecimal negative digits exponent = ofRank negative
      (rankOfUnits (digits * 10 ^ exponent.toNat * unitsPerOne) (10 ^ (-exponent).toNat)) := by
  have positive : 0 < 10 ^ (-exponent).toNat := Nat.pow_pos (by decide)
  have parts : ((exponent.toNat : Nat) : Int) - ((-exponent).toNat : Nat) = exponent := by omega
  unfold ofDecimal Decimal.length
  simp only []
  split_ifs with none huge tiny
  · rw [none, Nat.zero_mul, Nat.zero_mul, rankOfUnits_eq_zero positive (Nat.zero_le _)]
    rfl
  · have reach := Radix.pow_length_digits_le (Nat.pos_of_ne_zero none)
    have large : 2 ^ 1024 * 10 ^ (-exponent).toNat ≤ digits * 10 ^ exponent.toNat :=
      calc 2 ^ 1024 * 10 ^ (-exponent).toNat
          ≤ 10 ^ 309 * 10 ^ (-exponent).toNat := Nat.mul_le_mul_right _ (by decide +kernel)
        _ = 10 ^ (309 + (-exponent).toNat) := (Nat.pow_add ..).symm
        _ ≤ 10 ^ ((Radix.digits 10 digits).length - 1 + exponent.toNat) :=
          Nat.pow_le_pow_right (by decide) (by omega)
        _ = 10 ^ ((Radix.digits 10 digits).length - 1) * 10 ^ exponent.toNat := Nat.pow_add ..
        _ ≤ digits * 10 ^ exponent.toNat := Nat.mul_le_mul_right _ reach
    unfold ofRank
    rw [dif_neg (Nat.not_lt_of_le (le_rankOfUnits_of_le positive large))]
  · have bound := Radix.lt_pow_length_digits digits
    have small : 2 * (digits * 10 ^ exponent.toNat * unitsPerOne) ≤ 10 ^ (-exponent).toNat :=
      calc 2 * (digits * 10 ^ exponent.toNat * unitsPerOne)
          = digits * 10 ^ exponent.toNat * (2 * unitsPerOne) := by ring
        _ ≤ 10 ^ (Radix.digits 10 digits).length * 10 ^ exponent.toNat * 10 ^ 324 :=
          Nat.mul_le_mul (Nat.mul_le_mul_right _ (Nat.le_of_lt bound)) (by decide +kernel)
        _ = 10 ^ ((Radix.digits 10 digits).length + exponent.toNat + 324) := by
          rw [Nat.pow_add, Nat.pow_add]
        _ ≤ 10 ^ (-exponent).toNat := Nat.pow_le_pow_right (by decide) (by omega)
    rw [rankOfUnits_eq_zero positive small]
    rfl
  · cases exponent with
    | ofNat zeros => simp [ofRatio]
    | negSucc places =>
        have none : (Int.negSucc places).toNat = 0 := rfl
        simp [ofRatio, none]

/-- **Reading a decimal gives the nearest double.** -/
theorem isNearest_ofDecimal (negative : Bool) (digits : Nat) (exponent : Int) :
    (ofDecimal negative digits exponent).IsNearest negative (digits * 10 ^ exponent) := by
  refine ⟨_, ?_, ofDecimal_eq_ofRank negative digits exponent⟩
  have closest := closest_rankOfUnits (digits * 10 ^ exponent.toNat)
    (show 0 < 10 ^ (-exponent).toNat from Nat.pow_pos (by decide))
  have same : ((digits * 10 ^ exponent.toNat : Nat) : ℚ) / ((10 ^ (-exponent).toNat : Nat) : ℚ) =
      digits * 10 ^ exponent := by
    cases exponent with
    | ofNat zeros => simp
    | negSucc places =>
        have none : (Int.negSucc places).toNat = 0 := rfl
        simp [none, zpow_negSucc, div_eq_mul_inv]
  rwa [same] at closest

end Rego.Double
