import Mathlib.Tactic.Ring
import Mathlib.Tactic.Linarith
import Mathlib.Order.Monotone.Basic
import Mathlib.Data.Nat.Log
import Rego.Double.Rounding

/-!
# The nearest rank

A rank is nearest to a magnitude when the magnitude lies between the midpoints to the two
neighbouring ranks; a midpoint itself belongs to the rank with the even significand. Exactly one
rank is nearest to a magnitude (`Nearest.unique`), and `rankOfUnits` computes it
(`nearest_rankOfUnits`). From this follow the two facts that every use of rounding needs: rounding
is monotone (`rankOfUnits_le_of_le`), and it gives back every magnitude that has a rank
(`rankOfUnits_unitsOfRank`).
-/

namespace Rego.Double

set_option autoImplicit false

/-! ## Units of ranks -/

/-- Below the first binade with a gap, a rank is its own number of units. -/
theorem unitsOfRank_of_lt {rank : Nat} (small : rank < 2 ^ 53) : unitsOfRank rank = rank := by
  unfold unitsOfRank significandOfRank scaleOfRank
  split
  · rw [show rank / 2 ^ 52 - 1 = 0 by omega]
    omega
  · rw [show rank / 2 ^ 52 - 1 = 0 by omega]
    omega

/-- The rank of a full significand in a binade; the significand that carries over is included. -/
theorem unitsOfRank_binade {scale significand : Nat} (full : 2 ^ 52 ≤ significand)
    (bounded : significand ≤ 2 ^ 53) :
    unitsOfRank (scale * 2 ^ 52 + significand) = significand * 2 ^ scale := by
  unfold unitsOfRank significandOfRank scaleOfRank
  rw [if_neg (by omega)]
  by_cases carry : significand = 2 ^ 53
  · rw [show (scale * 2 ^ 52 + significand) / 2 ^ 52 - 1 = scale + 1 by omega,
      show (scale * 2 ^ 52 + significand) % 2 ^ 52 + 2 ^ 52 = 2 ^ 52 by omega, carry, pow_succ]
    ring
  · rw [show (scale * 2 ^ 52 + significand) / 2 ^ 52 - 1 = scale by omega,
      show (scale * 2 ^ 52 + significand) % 2 ^ 52 + 2 ^ 52 = significand by omega]

/-- Every rank from the first full significand on lies in a binade. -/
theorem exists_binade {rank : Nat} (large : 2 ^ 52 ≤ rank) :
    ∃ scale significand, rank = scale * 2 ^ 52 + significand ∧ 2 ^ 52 ≤ significand ∧
      significand < 2 ^ 53 ∧ scaleOfRank rank = scale := by
  refine ⟨rank / 2 ^ 52 - 1, rank % 2 ^ 52 + 2 ^ 52, ?_, ?_, ?_, rfl⟩ <;> omega

/-- Neighbouring magnitudes differ by one unit of the last place. -/
theorem unitsOfRank_succ (rank : Nat) :
    unitsOfRank (rank + 1) = unitsOfRank rank + 2 ^ scaleOfRank rank := by
  by_cases small : rank < 2 ^ 52
  · rw [unitsOfRank_of_lt (by omega), unitsOfRank_of_lt (by omega)]
    unfold scaleOfRank
    rw [show rank / 2 ^ 52 - 1 = 0 by omega, pow_zero]
  · obtain ⟨scale, significand, equal, full, bounded, same⟩ :=
      exists_binade (Nat.le_of_not_lt small)
    rw [same, equal, Nat.add_assoc, unitsOfRank_binade (by omega) (by omega),
      unitsOfRank_binade full (by omega), Nat.add_mul, Nat.one_mul]

theorem unitsOfRank_strictMono : StrictMono unitsOfRank := by
  refine strictMono_nat_of_lt_succ fun rank => ?_
  rw [unitsOfRank_succ]
  exact Nat.lt_add_of_pos_right (Nat.two_pow_pos _)

@[simp] theorem unitsOfRank_zero : unitsOfRank 0 = 0 := unitsOfRank_of_lt (by decide)

theorem unitsOfRank_le_iff {low high : Nat} :
    unitsOfRank low ≤ unitsOfRank high ↔ low ≤ high := unitsOfRank_strictMono.le_iff_le

theorem unitsOfRank_lt_iff {low high : Nat} :
    unitsOfRank low < unitsOfRank high ↔ low < high := unitsOfRank_strictMono.lt_iff_lt

/-- Every magnitude with a short enough significand has a rank. -/
theorem exists_rank_of_significand (scale : Nat) {significand : Nat}
    (bounded : significand < 2 ^ 53) :
    ∃ rank, unitsOfRank rank = significand * 2 ^ scale := by
  induction scale generalizing significand with
  | zero => exact ⟨significand, by rw [unitsOfRank_of_lt bounded, pow_zero, Nat.mul_one]⟩
  | succ scale ih =>
      by_cases full : 2 ^ 52 ≤ significand
      · exact ⟨(scale + 1) * 2 ^ 52 + significand, unitsOfRank_binade full (by omega)⟩
      · obtain ⟨rank, equal⟩ := @ih (2 * significand) (by omega)
        refine ⟨rank, ?_⟩
        rw [equal, pow_succ]
        ring

/-! ## Nearest ranks -/

/-- A rank is nearest to a magnitude of `numerator / denominator` units when the magnitude lies
between the midpoints to the neighbouring ranks, which themselves count for an even significand. -/
def Nearest (rank numerator denominator : Nat) : Prop :=
  if rank % 2 = 0 then
    (unitsOfRank (rank - 1) + unitsOfRank rank) * denominator ≤ 2 * numerator ∧
      2 * numerator ≤ (unitsOfRank rank + unitsOfRank (rank + 1)) * denominator
  else
    (unitsOfRank (rank - 1) + unitsOfRank rank) * denominator < 2 * numerator ∧
      2 * numerator < (unitsOfRank rank + unitsOfRank (rank + 1)) * denominator

namespace Nearest

variable {rank numerator denominator : Nat}

theorem lower (nearest : Nearest rank numerator denominator) :
    (unitsOfRank (rank - 1) + unitsOfRank rank) * denominator ≤ 2 * numerator := by
  unfold Nearest at nearest
  split at nearest <;> omega

theorem upper (nearest : Nearest rank numerator denominator) :
    2 * numerator ≤ (unitsOfRank rank + unitsOfRank (rank + 1)) * denominator := by
  unfold Nearest at nearest
  split at nearest <;> omega

/-- Only a rank with an even significand is nearest to a midpoint. -/
theorem even_of_midpoint (nearest : Nearest rank numerator denominator)
    (midpoint : 2 * numerator = (unitsOfRank (rank - 1) + unitsOfRank rank) * denominator ∨
      2 * numerator = (unitsOfRank rank + unitsOfRank (rank + 1)) * denominator) :
    rank % 2 = 0 := by
  unfold Nearest at nearest
  split at nearest
  · assumption
  · omega

/-- Strictly between the midpoints the significand does not matter. -/
theorem of_strict
    (above : (unitsOfRank (rank - 1) + unitsOfRank rank) * denominator < 2 * numerator)
    (below : 2 * numerator < (unitsOfRank rank + unitsOfRank (rank + 1)) * denominator) :
    Nearest rank numerator denominator := by
  unfold Nearest
  split <;> constructor <;> omega

end Nearest

/-- The midpoint above a rank is not beyond the midpoint below any later rank, and it is that
midpoint only for the next rank. -/
theorem midpoint_le {low high : Nat} (before : low < high) :
    unitsOfRank low + unitsOfRank (low + 1) ≤ unitsOfRank (high - 1) + unitsOfRank high :=
  Nat.add_le_add (unitsOfRank_le_iff.mpr (by omega)) (unitsOfRank_le_iff.mpr (by omega))

theorem eq_succ_of_midpoint_eq {low high : Nat} (before : low < high)
    (same : unitsOfRank low + unitsOfRank (low + 1) = unitsOfRank (high - 1) + unitsOfRank high) :
    high = low + 1 := by
  have first : unitsOfRank low ≤ unitsOfRank (high - 1) := unitsOfRank_le_iff.mpr (by omega)
  have second : unitsOfRank (low + 1) ≤ unitsOfRank high := unitsOfRank_le_iff.mpr (by omega)
  have equal : unitsOfRank (low + 1) = unitsOfRank high := by omega
  exact (unitsOfRank_strictMono.injective equal).symm

/-- **Nearest ranks are monotone in the magnitude.** -/
theorem Nearest.le_of_le {low high lowNumerator highNumerator lowDenominator highDenominator : Nat}
    (lowNearest : Nearest low lowNumerator lowDenominator)
    (highNearest : Nearest high highNumerator highDenominator)
    (lowPositive : 0 < lowDenominator) (highPositive : 0 < highDenominator)
    (order : lowNumerator * highDenominator ≤ highNumerator * lowDenominator) : low ≤ high := by
  by_contra later
  have before : high < low := Nat.lt_of_not_le later
  have scaled : 2 * lowNumerator * highDenominator ≤ 2 * highNumerator * lowDenominator := by
    rw [Nat.mul_assoc, Nat.mul_assoc]
    exact Nat.mul_le_mul_left 2 order
  -- The midpoint above `high` and the one below `low` enclose both magnitudes from the wrong sides.
  have lower := Nat.mul_le_mul_right highDenominator lowNearest.lower
  have upper := Nat.mul_le_mul_right lowDenominator highNearest.upper
  rw [Nat.mul_right_comm _ highDenominator] at upper
  have same :
      unitsOfRank high + unitsOfRank (high + 1) = unitsOfRank (low - 1) + unitsOfRank low := by
    refine Nat.le_antisymm (midpoint_le before) ?_
    refine Nat.le_of_mul_le_mul_right (Nat.le_of_mul_le_mul_right ?_ highPositive) lowPositive
    exact (lower.trans scaled).trans upper
  have next : low = high + 1 := eq_succ_of_midpoint_eq before same
  -- Both magnitudes are that one midpoint, which belongs to only one of two neighbours.
  have lowTie : 2 * lowNumerator = (unitsOfRank (low - 1) + unitsOfRank low) * lowDenominator := by
    refine Nat.eq_of_mul_eq_mul_right highPositive (Nat.le_antisymm ?_ lower)
    rw [← same]
    exact scaled.trans upper
  have highTie : 2 * highNumerator =
      (unitsOfRank high + unitsOfRank (high + 1)) * highDenominator := by
    refine Nat.eq_of_mul_eq_mul_right lowPositive ?_
    rw [Nat.mul_right_comm _ highDenominator]
    refine Nat.le_antisymm upper ?_
    rw [same]
    exact lower.trans scaled
  have lowEven := lowNearest.even_of_midpoint (.inl lowTie)
  have highEven := highNearest.even_of_midpoint (.inr highTie)
  omega

/-- **One rank at most is nearest to a magnitude.** -/
theorem Nearest.unique {first second numerator denominator : Nat} (positive : 0 < denominator)
    (firstNearest : Nearest first numerator denominator)
    (secondNearest : Nearest second numerator denominator) : first = second :=
  Nat.le_antisymm (firstNearest.le_of_le secondNearest positive positive (Nat.le_refl _))
    (secondNearest.le_of_le firstNearest positive positive (Nat.le_refl _))

/-- A rank is nearest to its own magnitude. -/
theorem nearest_unitsOfRank (rank : Nat) : Nearest rank (unitsOfRank rank) 1 := by
  have upper : unitsOfRank rank < unitsOfRank (rank + 1) := unitsOfRank_lt_iff.mpr (by omega)
  cases rank with
  | zero => simp [Nearest]
  | succ rank =>
      have lower : unitsOfRank rank < unitsOfRank (rank + 1) := unitsOfRank_lt_iff.mpr (by omega)
      refine Nearest.of_strict ?_ (by omega)
      rw [Nat.add_sub_cancel]
      omega

/-! ## Rounding computes the nearest rank -/

/-- Half a step on either side of the rounded quotient encloses the numerator, and only an even
quotient may stand exactly half a step away. -/
theorem roundHalfEven_bounds (numerator : Nat) {denominator : Nat} (positive : 0 < denominator) :
    2 * roundHalfEven numerator denominator * denominator ≤ 2 * numerator + denominator ∧
      2 * numerator ≤ (2 * roundHalfEven numerator denominator + 1) * denominator ∧
      (roundHalfEven numerator denominator % 2 = 1 →
        2 * roundHalfEven numerator denominator * denominator < 2 * numerator + denominator ∧
          2 * numerator < (2 * roundHalfEven numerator denominator + 1) * denominator) := by
  have split : denominator * (numerator / denominator) + numerator % denominator = numerator :=
    Nat.div_add_mod numerator denominator
  have bound : numerator % denominator < denominator := Nat.mod_lt _ positive
  have expand : ∀ quotient : Nat, 2 * quotient * denominator = 2 * (denominator * quotient) :=
    fun quotient => by ring
  have expandOdd : ∀ quotient : Nat,
      (2 * quotient + 1) * denominator = 2 * (denominator * quotient) + denominator :=
    fun quotient => by ring
  have next : denominator * (numerator / denominator + 1) =
      denominator * (numerator / denominator) + denominator := by ring
  unfold roundHalfEven
  simp only []
  split_ifs with down up
  · rw [expand, expandOdd]
    omega
  · rw [expand, expandOdd, next]
    omega
  · have tie : 2 * (numerator % denominator) = denominator := by omega
    rcases Nat.mod_two_eq_zero_or_one (numerator / denominator) with even | odd
    · rw [even, Nat.add_zero, expand, expandOdd]
      omega
    · rw [odd, expand, expandOdd, next]
      omega

theorem le_roundHalfEven {numerator denominator least : Nat} (positive : 0 < denominator)
    (enough : least * denominator ≤ numerator) :
    least ≤ roundHalfEven numerator denominator := by
  have floor : least ≤ numerator / denominator := (Nat.le_div_iff_mul_le positive).mpr enough
  unfold roundHalfEven
  simp only []
  split_ifs <;> omega

theorem roundHalfEven_le {numerator denominator bound : Nat} (positive : 0 < denominator)
    (small : numerator < bound * denominator) :
    roundHalfEven numerator denominator ≤ bound := by
  have floor : numerator / denominator < bound := (Nat.div_lt_iff_lt_mul positive).mpr small
  unfold roundHalfEven
  simp only []
  split_ifs <;> omega

/-- What rounding drops leaves at most fifty-three significant bits, and all of them when it drops
anything. -/
theorem dropped_bounds {numerator denominator : Nat} (positive : 0 < denominator) :
    let dropped := Nat.log2 (numerator / denominator) - 52
    numerator < 2 ^ 53 * (denominator * 2 ^ dropped) ∧
      (0 < dropped → 2 ^ 52 * (denominator * 2 ^ dropped) ≤ numerator) := by
  intro dropped
  have rearrange : ∀ power : Nat, 2 ^ power * (denominator * 2 ^ dropped) =
      2 ^ (power + dropped) * denominator := fun power => by rw [pow_add]; ring
  constructor
  · rw [rearrange, ← Nat.div_lt_iff_lt_mul positive]
    refine Nat.lt_of_lt_of_le Nat.lt_log2_self (Nat.pow_le_pow_right (by decide) ?_)
    omega
  · intro some
    rw [rearrange, ← Nat.le_div_iff_mul_le positive]
    have nonzero : numerator / denominator ≠ 0 := by
      intro zero
      simp [dropped, zero] at some
    rw [show 52 + dropped = Nat.log2 (numerator / denominator) by omega]
    exact Nat.log2_self_le nonzero

/-- A magnitude at most half a step below a significand is not below the midpoint to the rank
before, and beyond it when the significand is odd. -/
theorem midpoint_below_of_significand {rank numerator denominator significand scale : Nat}
    (parity : rank % 2 = significand % 2)
    (here : unitsOfRank rank = significand * 2 ^ scale)
    (low : 2 * significand * (denominator * 2 ^ scale) ≤ 2 * numerator + denominator * 2 ^ scale)
    (strict : significand % 2 = 1 →
      2 * significand * (denominator * 2 ^ scale) < 2 * numerator + denominator * 2 ^ scale)
    (positive : 0 < denominator)
    (below : unitsOfRank (rank - 1) + 2 ^ scale ≤ unitsOfRank rank ∨ rank = 0 ∨
      unitsOfRank (rank - 1) < unitsOfRank rank ∧
        significand * (denominator * 2 ^ scale) ≤ numerator) :
    (unitsOfRank (rank - 1) + unitsOfRank rank) * denominator ≤ 2 * numerator ∧
      (significand % 2 = 1 →
        (unitsOfRank (rank - 1) + unitsOfRank rank) * denominator < 2 * numerator) := by
  have twice : 2 * significand * (denominator * 2 ^ scale) =
      (unitsOfRank rank + unitsOfRank rank) * denominator := by rw [here]; ring
  rcases below with step | zero | ⟨before, enough⟩
  · have shifted : (unitsOfRank (rank - 1) + unitsOfRank rank) * denominator +
        denominator * 2 ^ scale ≤ 2 * significand * (denominator * 2 ^ scale) :=
      calc (unitsOfRank (rank - 1) + unitsOfRank rank) * denominator + denominator * 2 ^ scale
          = (unitsOfRank (rank - 1) + 2 ^ scale + unitsOfRank rank) * denominator := by ring
        _ ≤ (unitsOfRank rank + unitsOfRank rank) * denominator :=
          Nat.mul_le_mul_right _ (Nat.add_le_add_right step _)
        _ = _ := twice.symm
    refine ⟨by omega, fun odd => ?_⟩
    have := strict odd
    omega
  · subst zero
    simp only [Nat.zero_sub, unitsOfRank_zero, Nat.zero_mul, Nat.add_zero]
    exact ⟨Nat.zero_le _, fun odd => by omega⟩
  · have less : (unitsOfRank (rank - 1) + unitsOfRank rank) * denominator < 2 * numerator :=
      calc (unitsOfRank (rank - 1) + unitsOfRank rank) * denominator
          < (unitsOfRank rank + unitsOfRank rank) * denominator :=
            Nat.mul_lt_mul_of_pos_right (by omega) positive
        _ = 2 * (significand * (denominator * 2 ^ scale)) := by rw [← twice]; ring
        _ ≤ 2 * numerator := Nat.mul_le_mul_left _ enough
    exact ⟨Nat.le_of_lt less, fun _ => less⟩

/-- A rounded significand gives the nearest rank, provided that the ranks around it are where its
binade puts them. -/
theorem nearest_of_significand {rank numerator denominator significand scale : Nat}
    (parity : rank % 2 = significand % 2)
    (here : unitsOfRank rank = significand * 2 ^ scale)
    (above : (significand + 1) * 2 ^ scale ≤ unitsOfRank (rank + 1))
    (rounded : significand = roundHalfEven numerator (denominator * 2 ^ scale))
    (positive : 0 < denominator)
    (below : unitsOfRank (rank - 1) + 2 ^ scale ≤ unitsOfRank rank ∨ rank = 0 ∨
      unitsOfRank (rank - 1) < unitsOfRank rank ∧
        significand * (denominator * 2 ^ scale) ≤ numerator) :
    Nearest rank numerator denominator := by
  have steps : 0 < denominator * 2 ^ scale := Nat.mul_pos positive (Nat.two_pow_pos _)
  obtain ⟨low, high, strict⟩ := roundHalfEven_bounds numerator steps
  rw [← rounded] at low high strict
  have upper : (2 * significand + 1) * (denominator * 2 ^ scale) ≤
      (unitsOfRank rank + unitsOfRank (rank + 1)) * denominator :=
    calc (2 * significand + 1) * (denominator * 2 ^ scale)
        = (significand * 2 ^ scale + (significand + 1) * 2 ^ scale) * denominator := by ring
      _ ≤ _ := Nat.mul_le_mul_right _ (Nat.add_le_add (Nat.le_of_eq here.symm) above)
  have lower := midpoint_below_of_significand parity here low (fun odd => (strict odd).1) positive
    below
  unfold Nearest
  split
  · exact ⟨lower.1, Nat.le_trans high upper⟩
  · have odd : significand % 2 = 1 := by omega
    exact ⟨lower.2 odd, Nat.lt_of_lt_of_le (strict odd).2 upper⟩

/-- **Rounding computes the nearest rank.** -/
theorem nearest_rankOfUnits (numerator : Nat) {denominator : Nat} (positive : 0 < denominator) :
    Nearest (rankOfUnits numerator denominator) numerator denominator := by
  obtain ⟨bounded, full⟩ := @dropped_bounds numerator denominator positive
  have opened : rankOfUnits numerator denominator =
      (Nat.log2 (numerator / denominator) - 52) * 2 ^ 52 +
        roundHalfEven numerator
          (denominator * 2 ^ (Nat.log2 (numerator / denominator) - 52)) := rfl
  rw [opened]
  generalize Nat.log2 (numerator / denominator) - 52 = scale at *
  have steps : 0 < denominator * 2 ^ scale := Nat.mul_pos positive (Nat.two_pow_pos _)
  have large : roundHalfEven numerator (denominator * 2 ^ scale) ≤ 2 ^ 53 :=
    roundHalfEven_le steps bounded
  generalize same : roundHalfEven numerator (denominator * 2 ^ scale) = significand at *
  rcases Nat.eq_zero_or_pos scale with none | some
  · -- Nothing is dropped: ranks and units agree up to the first binade with a gap.
    subst none
    rw [Nat.zero_mul, Nat.zero_add]
    have here : unitsOfRank significand = significand * 2 ^ 0 := by
      rcases Nat.lt_or_ge significand (2 ^ 53) with less | more
      · rw [unitsOfRank_of_lt less, pow_zero, Nat.mul_one]
      · have carry := @unitsOfRank_binade 0 significand (by omega) large
        rwa [Nat.zero_mul, Nat.zero_add] at carry
    refine nearest_of_significand rfl here ?_ same.symm positive ?_
    · have step := unitsOfRank_lt_iff.mpr (Nat.lt_add_one significand)
      rw [here] at step
      omega
    · rcases Nat.eq_zero_or_pos significand with zero | more
      · exact .inr (.inl zero)
      · refine .inl ?_
        rw [here, unitsOfRank_of_lt (by omega)]
        omega
  · have full := full some
    have least : 2 ^ 52 ≤ significand := same ▸ le_roundHalfEven steps full
    have here := @unitsOfRank_binade scale significand least large
    refine nearest_of_significand (by omega) here ?_ same.symm positive ?_
    · rcases Nat.lt_or_ge significand (2 ^ 53) with less | more
      · rw [Nat.add_assoc, unitsOfRank_binade (by omega) (by omega)]
      · rw [unitsOfRank_succ, here, Nat.add_mul, Nat.one_mul]
        refine Nat.add_le_add_left (Nat.pow_le_pow_right (by decide) ?_) _
        unfold scaleOfRank
        omega
    · rcases Nat.lt_or_ge (2 ^ 52) significand with more | exact
      · refine .inl ?_
        rw [here,
          show scale * 2 ^ 52 + significand - 1 = scale * 2 ^ 52 + (significand - 1) by omega,
          unitsOfRank_binade (by omega) (by omega)]
        exact Nat.le_of_eq (by rw [← Nat.succ_mul]; congr 1; omega)
      · refine .inr (.inr ⟨unitsOfRank_lt_iff.mpr (by omega), ?_⟩)
        rwa [show significand = 2 ^ 52 by omega]

/-- Rounding is monotone. -/
theorem rankOfUnits_le_of_le {low high lowDenominator highDenominator : Nat}
    (lowPositive : 0 < lowDenominator) (highPositive : 0 < highDenominator)
    (order : low * highDenominator ≤ high * lowDenominator) :
    rankOfUnits low lowDenominator ≤ rankOfUnits high highDenominator :=
  (nearest_rankOfUnits low lowPositive).le_of_le (nearest_rankOfUnits high highPositive)
    lowPositive highPositive order

/-- A magnitude that has a rank is not changed by rounding. -/
theorem rankOfUnits_unitsOfRank (rank : Nat) : rankOfUnits (unitsOfRank rank) 1 = rank :=
  Nearest.unique Nat.one_pos (nearest_rankOfUnits _ Nat.one_pos) (nearest_unitsOfRank rank)

end Rego.Double
