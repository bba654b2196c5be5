import Mathlib.Tactic.Positivity
import Rego.Proofs.Double.Closest

/-!
# Rounded products

One rank is closest to a magnitude (`Closest.unique`), and it is off by at most half a unit of its
last place, a `2 ^ 53`rd of the magnitude or half of the least double (`Closest.error`). So when two
values are rounded and the product of their ranks is rounded again (`Product`), what comes out is
close to the product of the values (`Product.error`); and where the values and their product have
ranks, it is the product (`Product.eq_of_ranks`).

A thousandth has no rank. Its closest one is too large by so little that a value and its thousandth,
where they have ranks, are rounded to these nevertheless (`Product.eq_of_thousandth`).
-/

namespace Rego.Double

set_option autoImplicit false

/-! ## Gaps -/

theorem unitsPerOne_pos_rat : (0 : ℚ) < unitsPerOne := Nat.cast_pos.mpr unitsPerOne_pos

theorem magnitudeOfRank_nonneg (rank : Nat) : 0 ≤ magnitudeOfRank rank :=
  div_nonneg (Nat.cast_nonneg _) unitsPerOne_pos_rat.le

theorem magnitudeOfRank_of_units {rank whole : Nat}
    (spelled : unitsOfRank rank = whole * unitsPerOne) : magnitudeOfRank rank = whole := by
  rw [magnitudeOfRank, spelled, Nat.cast_mul, mul_div_cancel_right₀ _ unitsPerOne_pos_rat.ne']

theorem magnitudeOfRank_of_power {rank power : Nat}
    (spelled : unitsOfRank rank = 2 ^ power * unitsPerOne) : magnitudeOfRank rank = 2 ^ power :=
  (magnitudeOfRank_of_units spelled).trans (Nat.cast_pow 2 power)

/-- The magnitude at which doubles are infinite. -/
theorem magnitudeOfRank_rankBound : magnitudeOfRank (2047 * 2 ^ 52) = 2 ^ 1024 :=
  magnitudeOfRank_of_power unitsOfRank_rankBound

theorem magnitudeOfRank_le_iff {low high : Nat} :
    magnitudeOfRank low ≤ magnitudeOfRank high ↔ low ≤ high := by
  rw [← not_lt, magnitudeOfRank_lt_iff, Nat.not_lt]

/-- The step from a rank to the next one is a small part of the magnitude, or one unit. -/
theorem step_bounds (rank : Nat) :
    unitsOfRank rank < 2 ^ 53 * 2 ^ scaleOfRank rank ∧
      2 ^ 52 * 2 ^ scaleOfRank rank ≤ unitsOfRank rank + 2 ^ 52 := by
  by_cases small : rank < 2 ^ 52
  · have scale : scaleOfRank rank = 0 := by unfold scaleOfRank; omega
    rw [scale, unitsOfRank_of_lt (by omega)]
    omega
  · obtain ⟨scale, significand, rfl, full, bounded, same⟩ := exists_binade (Nat.le_of_not_lt small)
    rw [same, unitsOfRank_binade full bounded.le]
    exact ⟨Nat.mul_lt_mul_of_pos_right bounded (Nat.two_pow_pos _),
      (Nat.mul_le_mul_right _ full).trans (Nat.le_add_right _ _)⟩

theorem magnitudeOfRank_succ (rank : Nat) :
    magnitudeOfRank (rank + 1) =
      magnitudeOfRank rank + (2 ^ scaleOfRank rank : Nat) / unitsPerOne := by
  unfold magnitudeOfRank
  rw [unitsOfRank_succ, ← add_div, Nat.cast_add]

theorem magnitudeOfRank_succ_le (rank : Nat) : magnitudeOfRank (rank + 1) ≤
    magnitudeOfRank rank + magnitudeOfRank rank / 2 ^ 52 + 1 / unitsPerOne := by
  have bound : (2 ^ 52 : ℚ) * (2 ^ scaleOfRank rank : Nat) ≤ unitsOfRank rank + 2 ^ 52 := by
    exact_mod_cast (step_bounds rank).2
  have step : ((2 ^ scaleOfRank rank : Nat) : ℚ) / unitsPerOne ≤
      (unitsOfRank rank / 2 ^ 52 + 1) / unitsPerOne :=
    div_le_div_of_nonneg_right (by linarith) unitsPerOne_pos_rat.le
  rw [magnitudeOfRank_succ, add_assoc]
  refine add_le_add_right (step.trans_eq ?_) _
  unfold magnitudeOfRank
  ring

/-- Neighbouring ranks are more than a small part of the magnitude apart. -/
theorem lt_magnitudeOfRank_succ (rank : Nat) :
    magnitudeOfRank rank + magnitudeOfRank rank / 2 ^ 53 < magnitudeOfRank (rank + 1) := by
  have bound : (unitsOfRank rank : ℚ) < 2 ^ 53 * (2 ^ scaleOfRank rank : Nat) := by
    exact_mod_cast (step_bounds rank).1
  have step : ((unitsOfRank rank : ℚ) / 2 ^ 53) / unitsPerOne <
      (2 ^ scaleOfRank rank : Nat) / unitsPerOne :=
    div_lt_div_of_pos_right (by linarith) unitsPerOne_pos_rat
  rw [magnitudeOfRank_succ]
  refine add_lt_add_right (lt_of_eq_of_lt ?_ step) _
  unfold magnitudeOfRank
  ring

/-! ## Closest ranks -/

namespace Closest

variable {rank other : Nat} {magnitude : ℚ}

theorem le (closest : Closest rank magnitude) (other : Nat) :
    |magnitude - magnitudeOfRank rank| ≤ |magnitude - magnitudeOfRank other| := by
  by_cases same : other = rank
  · rw [same]
  · rcases closest other same with less | ⟨equal, _⟩
    · exact less.le
    · exact equal.le

/-- A magnitude is not beyond the midpoint to a larger rank. -/
theorem le_midpoint (closest : Closest rank magnitude) (later : rank < other) :
    2 * magnitude ≤ magnitudeOfRank rank + magnitudeOfRank other := by
  by_contra beyond
  have step := magnitudeOfRank_lt_iff.mpr later
  refine absurd (closest.le other) (not_le.mpr ((abs_sub_lt_abs_sub_iff _ _ _).mpr ?_))
  exact mul_pos_of_neg_of_neg (by linarith) (by linarith)

/-- A magnitude is not below the midpoint to a smaller rank. -/
theorem midpoint_le (closest : Closest rank magnitude) (before : other < rank) :
    magnitudeOfRank other + magnitudeOfRank rank ≤ 2 * magnitude := by
  by_contra beyond
  have step := magnitudeOfRank_lt_iff.mpr before
  refine absurd (closest.le other) (not_le.mpr ((abs_sub_lt_abs_sub_iff _ _ _).mpr ?_))
  exact mul_pos (by linarith) (by linarith)

/-- **One rank at most is closest to a magnitude.** -/
theorem unique (one : Closest rank magnitude) (two : Closest other magnitude) : rank = other := by
  by_contra different
  wlog before : rank < other generalizing rank other
  · exact this two one (Ne.symm different) (by omega)
  have upper := one.le_midpoint before
  have lower := two.midpoint_le before
  -- the magnitude is the midpoint of two even ranks, and the rank between them is closer
  have even : rank % 2 = 0 ∧ other % 2 = 0 := by
    have tie : |magnitude - magnitudeOfRank rank| = |magnitude - magnitudeOfRank other| :=
      abs_sub_eq_of_midpoint (le_antisymm upper lower)
    rcases one other (Ne.symm different) with less | ⟨_, first⟩
    · exact absurd tie less.ne
    · rcases two rank different with less | ⟨_, second⟩
      · exact absurd tie.symm less.ne
      · exact ⟨first, second⟩
  have between := one.le_midpoint (Nat.lt_add_one rank)
  have next := magnitudeOfRank_lt_iff.mpr (show rank + 1 < other by omega)
  linarith

/-- **A closest rank is off by at most half a unit of its last place.** -/
theorem error_of_rank (closest : Closest rank magnitude) (natural : 0 ≤ magnitude) :
    |magnitude - magnitudeOfRank rank| ≤ magnitudeOfRank rank / 2 ^ 53 + 1 / (2 * unitsPerOne) := by
  have half : (1 : ℚ) / (2 * unitsPerOne) = 1 / unitsPerOne / 2 := by
    rw [div_div, mul_comm]
  have unit : (0 : ℚ) < 1 / unitsPerOne := one_div_pos.mpr unitsPerOne_pos_rat
  have positive := magnitudeOfRank_nonneg rank
  rw [half, abs_sub_le_iff]
  constructor
  · have upper := closest.le_midpoint (Nat.lt_add_one rank)
    have step := magnitudeOfRank_succ_le rank
    linarith
  · cases rank with
    | zero =>
        have zero : magnitudeOfRank 0 = 0 := by
          rw [magnitudeOfRank, unitsOfRank_zero, Nat.cast_zero, zero_div]
        rw [zero]
        linarith
    | succ before =>
        have lower := closest.midpoint_le (Nat.lt_add_one before)
        have step := magnitudeOfRank_succ_le before
        have less := magnitudeOfRank_lt_iff.mpr (Nat.lt_add_one before)
        linarith

/-- The same in terms of what is rounded, where next to nothing stands for half a unit. -/
theorem error (closest : Closest rank magnitude) (natural : 0 ≤ magnitude) :
    |magnitude - magnitudeOfRank rank| ≤ 9 / 8 * (magnitude / 2 ^ 53) + 1 / 2 ^ 200 := by
  have bound := closest.error_of_rank natural
  have unit : (1 : ℚ) / (2 * unitsPerOne) ≤ 1 / 2 ^ 201 := by
    refine one_div_le_one_div_of_le (by norm_num) ?_
    exact_mod_cast (by decide +kernel : 2 ^ 201 ≤ 2 * unitsPerOne)
  have size : magnitudeOfRank rank ≤ magnitude + |magnitude - magnitudeOfRank rank| := by
    have below := neg_abs_le (magnitude - magnitudeOfRank rank)
    linarith
  linarith

/-- A magnitude is rounded to a finite double unless it is large. -/
theorem lt_rankBound (closest : Closest rank magnitude) (natural : 0 ≤ magnitude)
    (small : 2 * magnitude < 2 ^ 1024) : rank < 2047 * 2 ^ 52 := by
  by_contra infinite
  have bound := closest.error natural
  have below := neg_abs_le (magnitude - magnitudeOfRank rank)
  have beyond : 2 ^ 1024 ≤ magnitudeOfRank rank :=
    magnitudeOfRank_rankBound.ge.trans (magnitudeOfRank_le_iff.mpr (Nat.le_of_not_lt infinite))
  have one : (1 : ℚ) ≤ 2 ^ 1024 := one_le_pow₀ (by norm_num)
  generalize (2 : ℚ) ^ 1024 = large at small beyond one
  linarith

/-- A rank is closest to its magnitude, and to what is above it by less than a quarter of the least
step. -/
theorem of_magnitude (rank : Nat) {excess : ℚ} (natural : 0 ≤ excess)
    (small : excess ≤ 1 / 2 ^ 54) : Closest rank (magnitudeOfRank rank * (1 + excess)) := by
  have positive := magnitudeOfRank_nonneg rank
  have above : magnitudeOfRank rank * excess ≤ magnitudeOfRank rank * (1 / 2 ^ 54) :=
    mul_le_mul_of_nonneg_left small positive
  have least : 0 ≤ magnitudeOfRank rank * excess := mul_nonneg positive natural
  refine fun other different => .inl ((abs_sub_lt_abs_sub_iff _ _ _).mpr ?_)
  rw [mul_add, mul_one]
  rcases Nat.lt_or_gt_of_ne different with less | more
  · have step := magnitudeOfRank_lt_iff.mpr less
    exact mul_pos_of_neg_of_neg (by linarith) (by linarith)
  · have next := lt_magnitudeOfRank_succ rank
    have step := magnitudeOfRank_le_iff.mpr (show rank + 1 ≤ other from more)
    exact mul_pos (by linarith) (by linarith)

theorem self (rank : Nat) : Closest rank (magnitudeOfRank rank) := by
  have closest := of_magnitude rank (le_refl 0) (by norm_num)
  rwa [add_zero, mul_one] at closest

end Closest

/-- What finite doubles stand for, from zero on. -/
def IsDouble (magnitude : ℚ) : Prop := ∃ rank < 2047 * 2 ^ 52, magnitudeOfRank rank = magnitude

/-- Dyadic rationals of few binary digits are doubles. -/
theorem isDouble_dyadic {significand power : Nat} (bounded : significand < 2 ^ 53)
    (fine : power ≤ unitExponent) : IsDouble (significand / 2 ^ power) := by
  obtain ⟨rank, spelled⟩ := exists_rank_of_significand (unitExponent - power) bounded
  have units : unitsOfRank rank * 2 ^ power = significand * unitsPerOne := by
    rw [spelled, Nat.mul_assoc, ← Nat.pow_add, Nat.sub_add_cancel fine, unitsPerOne_eq]
  have magnitude : magnitudeOfRank rank = significand / 2 ^ power := by
    have positive : (0 : ℚ) < 2 ^ power := by positivity
    rw [magnitudeOfRank, div_eq_div_iff unitsPerOne_pos_rat.ne' positive.ne']
    exact_mod_cast units
  refine ⟨rank, ?_, magnitude⟩
  by_contra infinite
  have beyond := magnitudeOfRank_le_iff.mpr (Nat.le_of_not_lt infinite)
  have whole : (significand : ℚ) / 2 ^ power ≤ significand :=
    div_le_self (Nat.cast_nonneg _) (one_le_pow₀ (by norm_num))
  have few : (significand : ℚ) < 2 ^ 53 := by exact_mod_cast bounded
  have many : (2 : ℚ) ^ 53 < 2 ^ 1024 := pow_lt_pow_right₀ (by norm_num) (by decide)
  rw [magnitudeOfRank_rankBound, magnitude] at beyond
  exact absurd (beyond.trans whole) (not_le.mpr (few.trans many))

/-! ## Products -/

/-- **The product of two magnitudes is rounded to its closest rank.** -/
theorem closest_mul (left right : Nat) :
    Closest (rankOfUnits (unitsOfRank left * unitsOfRank right) unitsPerOne)
      (magnitudeOfRank left * magnitudeOfRank right) := by
  have square : 0 < unitsPerOne * unitsPerOne := Nat.mul_pos unitsPerOne_pos unitsPerOne_pos
  have closest := closest_rankOfUnits (unitsOfRank left * unitsOfRank right) square
  have same : rankOfUnits (unitsOfRank left * unitsOfRank right * unitsPerOne)
      (unitsPerOne * unitsPerOne) =
        rankOfUnits (unitsOfRank left * unitsOfRank right) unitsPerOne :=
    Nat.le_antisymm
      (rankOfUnits_le_of_le square unitsPerOne_pos (Nat.le_of_eq (Nat.mul_assoc ..)))
      (rankOfUnits_le_of_le unitsPerOne_pos square (Nat.le_of_eq (Nat.mul_assoc ..).symm))
  rw [same] at closest
  unfold magnitudeOfRank
  rw [div_mul_div_comm]
  exact_mod_cast closest

/-- The closest ranks of two values, and that of the product of these ranks. -/
structure Product (value factor : ℚ) (first second product : Nat) : Prop where
  first_closest : Closest first value
  second_closest : Closest second factor
  product_closest : Closest product (magnitudeOfRank first * magnitudeOfRank second)

variable {value factor : ℚ} {first second product : Nat}

/-- **A product of rounded values is close to the product of the values.** -/
theorem Product.error (rounded : Product value factor first second product) (natural : 0 ≤ value)
    (least : 1 / 1000 ≤ factor) (most : factor ≤ 2 ^ 60) :
    |value * factor - magnitudeOfRank product| ≤ (value * factor + 1) / 2 ^ 51 := by
  have one := rounded.first_closest.error natural
  have two := rounded.second_closest.error (by linarith)
  have three := rounded.product_closest.error
    (mul_nonneg (magnitudeOfRank_nonneg first) (magnitudeOfRank_nonneg second))
  have positive := magnitudeOfRank_nonneg second
  generalize magnitudeOfRank product = rounding at *
  generalize magnitudeOfRank first = left at *
  generalize magnitudeOfRank second = right at *
  -- as the factor is not small, its rounding is off by a small part of it and nothing more
  have off : |factor - right| ≤ 5 / 4 * (factor / 2 ^ 53) := by linarith
  have grown : right ≤ factor + 5 / 4 * (factor / 2 ^ 53) := by
    have below := neg_abs_le (factor - right)
    linarith
  have first_part : |(value - left) * right| ≤
      9 / 8 * (value * right / 2 ^ 53) + 1 / 2 ^ 200 * right := by
    rw [abs_mul, abs_of_nonneg positive]
    exact (mul_le_mul_of_nonneg_right one positive).trans_eq (by ring)
  have second_part : |value * (factor - right)| ≤ 5 / 4 * (value * factor / 2 ^ 53) := by
    rw [abs_mul, abs_of_nonneg natural]
    exact (mul_le_mul_of_nonneg_left off natural).trans_eq (by ring)
  have cross : value * right ≤ value * factor + 5 / 4 * (value * factor / 2 ^ 53) :=
    (mul_le_mul_of_nonneg_left grown natural).trans_eq (by ring)
  have total : 0 ≤ value * factor := mul_nonneg natural (by linarith)
  have unrounded : |value * factor - left * right| ≤
      5 / 2 * (value * factor / 2 ^ 53) + 1 / 2 ^ 130 := by
    have split : value * factor - left * right =
        (value - left) * right + value * (factor - right) := by ring
    rw [split]
    refine (abs_add_le _ _).trans ?_
    linarith
  have below := neg_abs_le (value * factor - left * right)
  have between := abs_sub_le (value * factor) (left * right) rounding
  linarith

/-- Values whose product is not large are rounded to finite doubles, and so is the product. -/
theorem Product.lt_rankBound (rounded : Product value factor first second product)
    (natural : 0 ≤ value) (least : 1 / 1000 ≤ factor) (most : factor ≤ 2 ^ 60)
    (small : value * factor < 2 ^ 1000) : first < 2047 * 2 ^ 52 ∧ product < 2047 * 2 ^ 52 := by
  have one : (1 : ℚ) ≤ 2 ^ 1000 := one_le_pow₀ (by norm_num)
  have large : (2 : ℚ) ^ 1024 = 2 ^ 24 * 2 ^ 1000 := pow_add 2 24 1000
  have total : 0 ≤ value * factor := mul_nonneg natural (by linarith)
  constructor
  · have part : value * (1 / 1000) ≤ value * factor := mul_le_mul_of_nonneg_left least natural
    refine rounded.first_closest.lt_rankBound natural ?_
    rw [large]
    generalize (2 : ℚ) ^ 1000 = bound at small one
    linarith
  · by_contra infinite
    have beyond := magnitudeOfRank_le_iff.mpr (Nat.le_of_not_lt infinite)
    have below := neg_abs_le (value * factor - magnitudeOfRank product)
    have off := rounded.error natural least most
    rw [magnitudeOfRank_rankBound, large] at beyond
    generalize (2 : ℚ) ^ 1000 = bound at small one beyond
    linarith

/-- Values that have ranks are rounded to these. -/
theorem Product.eq_of_ranks (rounded : Product value factor first second product)
    {valueRank factorRank productRank : Nat} (one : magnitudeOfRank valueRank = value)
    (two : magnitudeOfRank factorRank = factor)
    (three : magnitudeOfRank productRank = value * factor) :
    first = valueRank ∧ product = productRank := by
  obtain rfl := rounded.first_closest.unique (one ▸ Closest.self valueRank)
  obtain rfl := rounded.second_closest.unique (two ▸ Closest.self factorRank)
  have closest := rounded.product_closest
  rw [one, two, ← three] at closest
  exact ⟨rfl, closest.unique (Closest.self productRank)⟩

/-- The rank of a thousandth. -/
def thousandth : Nat := rankOfUnits (1 * unitsPerOne) 1000

theorem closest_thousandth : Closest thousandth (1 / 1000) := by
  have closest := closest_rankOfUnits 1 (show 0 < 1000 by decide)
  have same : ((1 : Nat) : ℚ) / (1000 : Nat) = 1 / 1000 := by norm_num
  rwa [same] at closest

/-- The rank of a thousandth is too large by next to nothing. -/
theorem magnitude_thousandth : magnitudeOfRank thousandth = (1 + 96 / 2 ^ 62) / 1000 := by
  have units : 1000 * 2 ^ 62 * unitsOfRank thousandth = (2 ^ 62 + 96) * unitsPerOne := by
    decide +kernel
  have cast := congrArg (Nat.cast : Nat → ℚ) units
  simp only [Nat.cast_mul, Nat.cast_add, Nat.cast_pow, Nat.cast_ofNat] at cast
  rw [magnitudeOfRank, div_eq_iff unitsPerOne_pos_rat.ne']
  linarith

/-- **A thousandth of a value is exact where both have ranks**, although a thousandth has none. -/
theorem Product.eq_of_thousandth (rounded : Product value (1 / 1000) first second product)
    {valueRank productRank : Nat} (one : magnitudeOfRank valueRank = value)
    (three : magnitudeOfRank productRank = value * (1 / 1000)) :
    first = valueRank ∧ product = productRank := by
  obtain rfl := rounded.first_closest.unique (one ▸ Closest.self valueRank)
  have two : second = thousandth := rounded.second_closest.unique closest_thousandth
  have closest := rounded.product_closest
  have slightly : magnitudeOfRank first * magnitudeOfRank thousandth =
      magnitudeOfRank productRank * (1 + 96 / 2 ^ 62) := by
    rw [magnitude_thousandth, three, one]
    ring
  rw [two, slightly] at closest
  exact ⟨rfl, closest.unique (Closest.of_magnitude productRank (by norm_num) (by norm_num))⟩

end Rego.Double
