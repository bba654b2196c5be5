import Rego.Proofs.Double.Nearest

/-!
# The order of doubles

On finite doubles the total order is the order of exact values, except that it tells the two zeros
apart (`compare_position_finite`). An integer rounded to a double stays on its side of every
fractional double, whatever its size (`compare_rank_of_whole`): below `2 ^ 53` rounding does not
move it, and from `2 ^ 52` on no double has a fraction. Two doubles in one place of the total order, or
with the same bits, are the same (`position_injective`, `toBits_injective`).
-/

namespace Rego.Double

set_option autoImplicit false

theorem unitsPerOne_pos : 0 < unitsPerOne := Nat.two_pow_pos _

theorem unitsPerOne_eq : unitsPerOne = 2 ^ unitExponent := rfl

/-! ## Fractional and integral magnitudes -/

/-- From `2 ^ 52` on every double is an integer. -/
theorem unitsOfRank_lt_of_fraction {rank : Nat} (fraction : unitsOfRank rank % unitsPerOne ≠ 0) :
    unitsOfRank rank < 2 ^ 52 * unitsPerOne := by
  have scaled : unitsOfRank rank = significandOfRank rank * 2 ^ scaleOfRank rank := rfl
  have short : significandOfRank rank < 2 ^ 53 := by
    unfold significandOfRank
    split <;> omega
  have shallow : scaleOfRank rank < unitExponent := by
    by_contra deep
    have whole : unitsPerOne ∣ unitsOfRank rank :=
      scaled ▸ Dvd.dvd.mul_left (Nat.pow_dvd_pow 2 (Nat.le_of_not_lt deep)) _
    exact fraction (Nat.mod_eq_zero_of_dvd whole)
  calc unitsOfRank rank = significandOfRank rank * 2 ^ scaleOfRank rank := scaled
    _ < 2 ^ 53 * 2 ^ scaleOfRank rank := Nat.mul_lt_mul_of_pos_right short (Nat.two_pow_pos _)
    _ = 2 ^ 52 * 2 ^ (scaleOfRank rank + 1) := by ring
    _ ≤ 2 ^ 52 * unitsPerOne := Nat.mul_le_mul_left _ (Nat.pow_le_pow_right (by decide) shallow)

/-- Integers below `2 ^ 53` are doubles. -/
theorem exists_rank_of_whole {whole : Nat} (small : whole < 2 ^ 53) :
    ∃ rank, unitsOfRank rank = whole * unitsPerOne :=
  exists_rank_of_significand unitExponent small

theorem compare_unitsOfRank (left right : Nat) :
    compare (unitsOfRank left) (unitsOfRank right) = compare left right := by
  rcases Nat.lt_trichotomy left right with less | same | more
  · rw [Nat.compare_eq_lt.mpr less, Nat.compare_eq_lt.mpr (unitsOfRank_lt_iff.mpr less)]
  · rw [same, Nat.compare_eq_eq.mpr rfl, Nat.compare_eq_eq.mpr rfl]
  · rw [Nat.compare_eq_gt.mpr more, Nat.compare_eq_gt.mpr (unitsOfRank_lt_iff.mpr more)]

/-- The ranks of large powers of two. -/
theorem unitsOfRank_power {power : Nat} (large : 52 ≤ power) :
    unitsOfRank ((unitExponent + (power - 52)) * 2 ^ 52 + 2 ^ 52) = 2 ^ power * unitsPerOne := by
  rw [unitsOfRank_binade (by decide) (by decide), unitsPerOne_eq, ← pow_add, ← pow_add]
  congr 1
  omega

/-- **Rounding keeps an integer on its side of every fractional magnitude.** -/
theorem compare_rank_of_whole (whole : Nat) {rank : Nat}
    (fraction : unitsOfRank rank % unitsPerOne ≠ 0) :
    compare (rankOfUnits (whole * unitsPerOne) 1) rank =
      compare (whole * unitsPerOne) (unitsOfRank rank) := by
  rcases Nat.lt_or_ge whole (2 ^ 52) with small | large
  · obtain ⟨exact, equal⟩ := exists_rank_of_whole (small.trans (by decide))
    rw [← equal, rankOfUnits_unitsOfRank, compare_unitsOfRank]
  · have bound := unitsOfRank_lt_of_fraction fraction
    have beyond : unitsOfRank rank < whole * unitsPerOne :=
      Nat.lt_of_lt_of_le bound (Nat.mul_le_mul_right _ large)
    have least := @unitsOfRank_power 52 (by decide)
    have first : rank < (unitExponent + (52 - 52)) * 2 ^ 52 + 2 ^ 52 := by
      rw [← unitsOfRank_lt_iff, least]
      exact bound
    have second : (unitExponent + (52 - 52)) * 2 ^ 52 + 2 ^ 52 ≤
        rankOfUnits (whole * unitsPerOne) 1 := by
      rw [← rankOfUnits_unitsOfRank ((unitExponent + (52 - 52)) * 2 ^ 52 + 2 ^ 52)]
      refine rankOfUnits_le_of_le Nat.one_pos Nat.one_pos ?_
      rw [least]
      exact Nat.mul_le_mul_right _ (Nat.mul_le_mul_right _ large)
    rw [Nat.compare_eq_gt.mpr beyond, Nat.compare_eq_gt.mpr (Nat.lt_of_lt_of_le first second)]

/-- An integer of at most sixty-three bits has a finite rank. -/
theorem rankOfUnits_whole_lt {whole : Nat} (bounded : whole ≤ 2 ^ 63) :
    rankOfUnits (whole * unitsPerOne) 1 < 2047 * 2 ^ 52 := by
  have top := @unitsOfRank_power 63 (by decide)
  have below :
      rankOfUnits (whole * unitsPerOne) 1 ≤ (unitExponent + (63 - 52)) * 2 ^ 52 + 2 ^ 52 := by
    rw [← rankOfUnits_unitsOfRank ((unitExponent + (63 - 52)) * 2 ^ 52 + 2 ^ 52)]
    refine rankOfUnits_le_of_le Nat.one_pos Nat.one_pos ?_
    rw [top]
    exact Nat.mul_le_mul_right _ (Nat.mul_le_mul_right _ bounded)
  unfold unitExponent at below
  omega

/-! ## Signs -/

/-- Two signed magnitudes compare like two positions, as soon as the magnitudes compare like the
ranks and one of them is not zero. -/
theorem compare_position_of_compare {leftSign rightSign : Bool}
    {left right : Fin (2047 * 2 ^ 52)} {leftUnits rightUnits : Nat}
    (same : compare left.val right.val = compare leftUnits rightUnits)
    (some : 0 < right.val) (more : 0 < rightUnits) :
    compare (Double.finite leftSign left).position (Double.finite rightSign right).position =
      compare (signed leftSign leftUnits) (signed rightSign rightUnits) := by
  have order : (left.val < right.val ↔ leftUnits < rightUnits) ∧
      (left.val = right.val ↔ leftUnits = rightUnits) := by
    rw [← Nat.compare_eq_lt, ← Nat.compare_eq_lt, ← Nat.compare_eq_eq, ← Nat.compare_eq_eq, same]
    exact ⟨Iff.rfl, Iff.rfl⟩
  cases leftSign <;> cases rightSign <;>
    simp only [position, signBit, magnitudeBits, signed, Bool.false_eq_true, if_false, if_true,
      Int.compare_eq_ite_le] <;>
    split_ifs <;> first | rfl | omega

theorem unitsOfRank_pos {rank : Nat} (positive : 0 < rank) : 0 < unitsOfRank rank := by
  have := unitsOfRank_lt_iff.mpr positive
  rwa [unitsOfRank_zero] at this

/-- **The total order of finite doubles is the order of their exact values**, unless both are
zeros. -/
theorem compare_position_finite (leftSign rightSign : Bool) (left right : Fin (2047 * 2 ^ 52))
    (some : 0 < right.val) :
    compare (Double.finite leftSign left).position (Double.finite rightSign right).position =
      compare (signed leftSign (unitsOfRank left)) (signed rightSign (unitsOfRank right)) :=
  compare_position_of_compare (compare_unitsOfRank left right).symm some (unitsOfRank_pos some)

/-- A fractional magnitude is not zero. -/
theorem rank_pos_of_fraction {rank : Nat} (fraction : unitsOfRank rank % unitsPerOne ≠ 0) :
    0 < rank := by
  refine Nat.pos_of_ne_zero fun zero => fraction ?_
  rw [zero, unitsOfRank_zero, Nat.zero_mod]

/-! ## Bits -/

/-- A double is its sign together with the bits below the sign. -/
theorem eq_of_bits {left right : Double} (signs : left.signBit = right.signBit)
    (magnitudes : left.magnitudeBits = right.magnitudeBits) : left = right := by
  cases left with
  | notNumber negative payload =>
      cases right with
      | notNumber negative' payload' =>
          have payloads : payload = payload' := Fin.ext (Nat.add_left_cancel magnitudes)
          rw [show negative = negative' from signs, payloads]
      | infinite negative' =>
          have beyond : rankBound + 1 + payload.val = rankBound := magnitudes
          omega
      | finite negative' rank' =>
          have beyond : rankBound + 1 + payload.val = rank'.val := magnitudes
          have bound : rank'.val < rankBound := rank'.isLt
          omega
  | infinite negative =>
      cases right with
      | notNumber negative' payload' =>
          have beyond : rankBound = rankBound + 1 + payload'.val := magnitudes
          omega
      | infinite negative' => rw [show negative = negative' from signs]
      | finite negative' rank' =>
          have beyond : rankBound = rank'.val := magnitudes
          have bound : rank'.val < rankBound := rank'.isLt
          omega
  | finite negative rank =>
      have bound : rank.val < rankBound := rank.isLt
      cases right with
      | notNumber negative' payload' =>
          have beyond : rank.val = rankBound + 1 + payload'.val := magnitudes
          omega
      | infinite negative' =>
          have beyond : rank.val = rankBound := magnitudes
          omega
      | finite negative' rank' =>
          have ranks : rank = rank' := Fin.ext magnitudes
          rw [show negative = negative' from signs, ranks]

theorem magnitudeBits_lt (value : Double) : value.magnitudeBits < 2 ^ 63 := by
  cases value with
  | notNumber negative payload =>
      have bound := payload.isLt
      simp only [magnitudeBits, rankBound]
      omega
  | infinite negative =>
      simp only [magnitudeBits, rankBound]
      omega
  | finite negative rank =>
      have bound := rank.isLt
      simp only [magnitudeBits]
      omega

/-- **The total order tells all doubles apart.** -/
theorem position_injective : Function.Injective position := by
  intro left right same
  unfold position at same
  split at same <;> rename_i leftSign <;> split at same <;> rename_i rightSign
  · exact eq_of_bits (leftSign.trans rightSign.symm) (by omega)
  · omega
  · omega
  · simp only [Bool.not_eq_true] at leftSign rightSign
    exact eq_of_bits (leftSign.trans rightSign.symm) (by omega)

/-- **Different doubles have different bits.** -/
theorem toBits_injective : Function.Injective toBits := by
  intro left right same
  have low := magnitudeBits_lt left
  have low' := magnitudeBits_lt right
  unfold toBits at same
  split at same <;> rename_i leftSign <;> split at same <;> rename_i rightSign
  · exact eq_of_bits (leftSign.trans rightSign.symm) (by omega)
  · omega
  · omega
  · simp only [Bool.not_eq_true] at leftSign rightSign
    exact eq_of_bits (leftSign.trans rightSign.symm) (by omega)

end Rego.Double
