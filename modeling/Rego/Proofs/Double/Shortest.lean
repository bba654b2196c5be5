import Rego.Double.Decimal
import Rego.Proofs.Double.Order
import Rego.Proofs.Text.Digits

/-!
# Shortest decimals

The digits that are written for a double round to it (`roundsTo_shortest`). The search for them ends
within seventeen digits, because the grid of seventeen digits is finer than the gap between
neighbouring doubles; the zeros that are taken off at the end do not change the value. A double with
a fraction has digits after the point (`exists_places_of_fraction`), and reading its digits gives
the double back (`ofDecimal_shortest`).
-/

namespace Rego.Double

set_option autoImplicit false

/-! ## Decimals near a rank -/

/-- A magnitude in multiples of a power of ten, the power split by its sign. -/
theorem scaledBy_eq (magnitude perOne : Nat) (exponent : Int) :
    scaledBy magnitude perOne exponent =
      (magnitude * 10 ^ (-exponent).toNat, perOne * 10 ^ exponent.toNat) := by
  cases exponent with
  | ofNat power => simp [scaledBy]
  | negSucc power =>
      have none : (Int.negSucc power).toNat = 0 := rfl
      simp [scaledBy, none]

/-- A decimal rounds to a rank. -/
def RoundsTo (rank : Nat) (decimal : Decimal) : Prop :=
  Nearest rank (decimal.digits * (unitsPerOne * 10 ^ decimal.exponent.toNat))
    (10 ^ (-decimal.exponent).toNat)

/-- A rank stays nearest to a magnitude that is written in other terms. -/
theorem Nearest.of_ratio {rank numerator denominator otherNumerator otherDenominator : Nat}
    (nearest : Nearest rank numerator denominator) (positive : 0 < denominator)
    (otherPositive : 0 < otherDenominator)
    (same : numerator * otherDenominator = otherNumerator * denominator) :
    Nearest rank otherNumerator otherDenominator := by
  have rounded := nearest_rankOfUnits otherNumerator otherPositive
  have equal : rank = rankOfUnits otherNumerator otherDenominator :=
    Nat.le_antisymm (nearest.le_of_le rounded positive otherPositive (Nat.le_of_eq same))
      (rounded.le_of_le nearest otherPositive positive (Nat.le_of_eq same.symm))
  rwa [equal]

/-- The test for a multiple of a power of ten is the test whether it rounds to the rank. -/
theorem roundsToRank_eq_true_iff (rank : Nat) (exponent : Int) (multiple : Nat) :
    roundsToRank rank exponent multiple = true ↔ RoundsTo rank ⟨multiple, exponent⟩ := by
  have twice : multiple * (2 * unitsPerOne * 10 ^ exponent.toNat) =
      2 * (multiple * (unitsPerOne * 10 ^ exponent.toNat)) := by ring
  unfold roundsToRank RoundsTo Nearest
  simp only [scaledBy_eq, twice]
  split <;> simp only [Bool.and_eq_true, decide_eq_true_eq]

theorem roundsTo_of_neighbour? {rank multiple : Nat} {exponent : Int}
    (found : neighbour? rank exponent = some multiple) : RoundsTo rank ⟨multiple, exponent⟩ := by
  rw [← roundsToRank_eq_true_iff]
  unfold neighbour? at found
  simp only [] at found
  split at found
  · next lower upper =>
      split at found
      · cases found
        exact lower
      · cases found
        exact upper
  · next lower _ =>
      cases found
      exact lower
  · next _ upper =>
      cases found
      exact upper
  · cases found

/-! ## Seventeen digits suffice -/

/-- The gap below a magnitude is not less than its part of `2 ^ 53`, nor more than the gap above. -/
theorem exists_gap {rank : Nat} (positive : 0 < rank) :
    ∃ gap, unitsOfRank rank = unitsOfRank (rank - 1) + gap ∧
      unitsOfRank rank + gap ≤ unitsOfRank (rank + 1) ∧ unitsOfRank rank ≤ 2 ^ 53 * gap := by
  obtain ⟨before, rfl⟩ := Nat.exists_eq_succ_of_ne_zero (Nat.ne_of_gt positive)
  refine ⟨2 ^ scaleOfRank before, unitsOfRank_succ before, ?_, ?_⟩
  · rw [unitsOfRank_succ (before + 1)]
    refine Nat.add_le_add_left (Nat.pow_le_pow_right (by decide) ?_) _
    unfold scaleOfRank
    omega
  · have short : significandOfRank before + 1 ≤ 2 ^ 53 := by
      unfold significandOfRank
      split <;> omega
    calc unitsOfRank (before + 1)
        = significandOfRank before * 2 ^ scaleOfRank before + 2 ^ scaleOfRank before :=
          unitsOfRank_succ before
      _ = (significandOfRank before + 1) * 2 ^ scaleOfRank before := by ring
      _ ≤ 2 ^ 53 * 2 ^ scaleOfRank before := Nat.mul_le_mul_right _ short

/-- A grid point at most half a step from a magnitude rounds to it, if a step is less than the gap
below the magnitude. -/
theorem roundsTo_of_near {rank gap multiple : Nat} {exponent : Int}
    (below : unitsOfRank rank = unitsOfRank (rank - 1) + gap)
    (above : unitsOfRank rank + gap ≤ unitsOfRank (rank + 1))
    (step : unitsPerOne * 10 ^ exponent.toNat < gap * 10 ^ (-exponent).toNat)
    (low : 2 * (unitsOfRank rank * 10 ^ (-exponent).toNat) ≤
      2 * (multiple * (unitsPerOne * 10 ^ exponent.toNat)) + unitsPerOne * 10 ^ exponent.toNat)
    (high : 2 * (multiple * (unitsPerOne * 10 ^ exponent.toNat)) ≤
      2 * (unitsOfRank rank * 10 ^ (-exponent).toNat) + unitsPerOne * 10 ^ exponent.toNat) :
    RoundsTo rank ⟨multiple, exponent⟩ := by
  unfold RoundsTo
  simp only []
  generalize 10 ^ (-exponent).toNat = factor at *
  refine Nearest.of_strict ?_ ?_
  · have middle : (unitsOfRank (rank - 1) + unitsOfRank rank) * factor + gap * factor =
        2 * (unitsOfRank rank * factor) := by
      rw [below]
      ring
    omega
  · have middle : 2 * (unitsOfRank rank * factor) + gap * factor ≤
        (unitsOfRank rank + unitsOfRank (rank + 1)) * factor :=
      calc 2 * (unitsOfRank rank * factor) + gap * factor
          = (unitsOfRank rank + (unitsOfRank rank + gap)) * factor := by ring
        _ ≤ _ := Nat.mul_le_mul_right _ (Nat.add_le_add_left above _)
    omega

/-- On a grid finer than the gap below a magnitude, a neighbour of the magnitude rounds to it. -/
theorem neighbour?_isSome {rank : Nat} {exponent : Int} (positive : 0 < rank)
    (fine : 2 ^ 53 * (unitsPerOne * 10 ^ exponent.toNat) <
      unitsOfRank rank * 10 ^ (-exponent).toNat) : (neighbour? rank exponent).isSome = true := by
  obtain ⟨gap, below, above, share⟩ := exists_gap positive
  have step : unitsPerOne * 10 ^ exponent.toNat < gap * 10 ^ (-exponent).toNat := by
    refine Nat.lt_of_mul_lt_mul_left (a := 2 ^ 53) (Nat.lt_of_lt_of_le fine ?_)
    rw [← Nat.mul_assoc]
    exact Nat.mul_le_mul_right _ share
  have unit : 0 < unitsPerOne * 10 ^ exponent.toNat :=
    Nat.mul_pos unitsPerOne_pos (Nat.pow_pos (by decide))
  have near := fun multiple => @roundsTo_of_near rank gap multiple exponent below above step
  unfold neighbour?
  simp only [scaledBy_eq]
  generalize unitsOfRank rank * 10 ^ (-exponent).toNat = numerator at *
  generalize unitsPerOne * 10 ^ exponent.toNat = denominator at *
  have parts := Nat.div_add_mod' numerator denominator
  have next : (numerator / denominator + 1) * denominator =
      numerator / denominator * denominator + denominator := Nat.succ_mul _ _
  have small := Nat.mod_lt numerator unit
  -- One of the two grid points around the magnitude is at most half a step away.
  rcases Nat.lt_or_ge (2 * (numerator % denominator)) denominator with close | far
  · have lower : roundsToRank rank exponent (numerator / denominator) = true := by
      rw [roundsToRank_eq_true_iff]
      apply near <;> omega
    rw [lower]
    split <;> first | rfl | contradiction
  · have upper : roundsToRank rank exponent (numerator / denominator + 1) = true := by
      rw [roundsToRank_eq_true_iff]
      apply near <;> omega
    rw [upper]
    split <;> first | rfl | contradiction

theorem unitsPerOne_le {power : Nat} (large : unitExponent ≤ 3 * power) :
    unitsPerOne ≤ 10 ^ power :=
  calc unitsPerOne ≤ 2 ^ (3 * power) := Nat.pow_le_pow_right (by decide) large
    _ = (2 ^ 3) ^ power := Nat.pow_mul ..
    _ ≤ 10 ^ power := Nat.pow_le_pow_left (by decide) _

/-- The leading digit of a scaled magnitude stands for a power of ten that the magnitude reaches. -/
theorem exists_leading {magnitude scale : Nat} (positive : 0 < magnitude)
    (large : unitsPerOne ≤ scale) :
    ∃ up : Nat, Decimal.length (magnitude * scale / unitsPerOne) = up + 1 ∧
      unitsPerOne * 10 ^ up ≤ magnitude * scale := by
  have reach : unitsPerOne ≤ magnitude * scale :=
    Nat.le_trans large (Nat.le_mul_of_pos_left _ positive)
  have some : 0 < magnitude * scale / unitsPerOne := Nat.div_pos reach unitsPerOne_pos
  unfold Decimal.length
  generalize same : magnitude * scale / unitsPerOne = scaled at *
  have least := Radix.pow_length_digits_le some
  have count : 0 < (Radix.digits 10 scaled).length :=
    List.length_pos_iff.mpr (Radix.digits_ne_nil scaled)
  refine ⟨(Radix.digits 10 scaled).length - 1, by omega, ?_⟩
  rw [Nat.mul_comm]
  exact (Nat.le_div_iff_mul_le unitsPerOne_pos).mp (same ▸ least)

theorem exists_leadingExponent_eq {rank : Nat} (positive : 0 < rank) :
    ∃ up down : Nat, leadingExponent rank = up - down ∧
      unitsPerOne * 10 ^ up ≤ unitsOfRank rank * 10 ^ down := by
  obtain ⟨up, same, reach⟩ :=
    exists_leading (unitsOfRank_pos positive) (@unitsPerOne_le 400 (by decide))
  refine ⟨up, 400, ?_, reach⟩
  rw [leadingExponent, same]
  push_cast
  ring

/-- The grid of seventeen digits is fine enough. -/
theorem fine_of_leadingExponent {rank : Nat} (positive : 0 < rank) :
    2 ^ 53 * (unitsPerOne * 10 ^ (leadingExponent rank - (16 : Nat)).toNat) <
      unitsOfRank rank * 10 ^ (-(leadingExponent rank - (16 : Nat))).toNat := by
  obtain ⟨up, down, same, reach⟩ := exists_leadingExponent_eq positive
  rw [same]
  have split : ((up : Int) - down - (16 : Nat)).toNat + 16 + down =
      up + (-((up : Int) - down - (16 : Nat))).toNat := by omega
  generalize ((up : Int) - down - (16 : Nat)).toNat = above at *
  generalize (-((up : Int) - down - (16 : Nat))).toNat = below at *
  have scaled : 10 ^ 16 * (unitsPerOne * 10 ^ above) ≤ unitsOfRank rank * 10 ^ below := by
    refine Nat.le_of_mul_le_mul_right ?_ (Nat.pow_pos (n := down) (show 0 < 10 by decide))
    calc 10 ^ 16 * (unitsPerOne * 10 ^ above) * 10 ^ down
        = unitsPerOne * 10 ^ (above + 16 + down) := by rw [Nat.pow_add, Nat.pow_add]; ring
      _ = unitsPerOne * 10 ^ up * 10 ^ below := by rw [split, Nat.pow_add]; ring
      _ ≤ unitsOfRank rank * 10 ^ down * 10 ^ below := Nat.mul_le_mul_right _ reach
      _ = unitsOfRank rank * 10 ^ below * 10 ^ down := by ring
  refine Nat.lt_of_lt_of_le (Nat.mul_lt_mul_of_pos_right (by decide) ?_) scaled
  exact Nat.mul_pos unitsPerOne_pos (Nat.pow_pos (by decide))

/-! ## The shortest decimal -/

/-- Taking zeros off the digits does not change what a decimal rounds to. -/
theorem roundsTo_strip {rank digits : Nat} {exponent : Int}
    (rounds : RoundsTo rank ⟨digits, exponent⟩) :
    RoundsTo rank (Decimal.strip digits exponent) := by
  induction digits using Nat.strongRecOn generalizing exponent with
  | ind digits ih =>
      rw [Decimal.strip]
      split
      · exact rounds
      · next more =>
          refine ih (digits / 10) (by omega) ?_
          refine Nearest.of_ratio rounds (Nat.pow_pos (by decide)) (Nat.pow_pos (by decide)) ?_
          have whole : digits = 10 * (digits / 10) := by omega
          have split : (exponent + 1).toNat + (-exponent).toNat =
              exponent.toNat + 1 + (-(exponent + 1)).toNat := by omega
          simp only []
          generalize digits / 10 = front at *
          rw [whole]
          generalize exponent.toNat = up at *
          generalize (-exponent).toNat = down at *
          calc 10 * front * (unitsPerOne * 10 ^ up) * 10 ^ (-(exponent + 1)).toNat
              = front * unitsPerOne * 10 ^ (up + 1 + (-(exponent + 1)).toNat) := by
                rw [Nat.pow_add, Nat.pow_add]; ring
            _ = front * (unitsPerOne * 10 ^ (exponent + 1).toNat) * 10 ^ down := by
                rw [← split, Nat.pow_add]; ring

/-- No zeros are left at the end. -/
theorem strip_digits (digits : Nat) (exponent : Int) :
    (Decimal.strip digits exponent).digits = 0 ∨
      (Decimal.strip digits exponent).digits % 10 ≠ 0 := by
  induction digits using Nat.strongRecOn generalizing exponent with
  | ind digits ih =>
      rw [Decimal.strip]
      split
      · next last => exact last
      · exact ih (digits / 10) (by omega) (exponent + 1)

/-- Taking zeros off the digits does not lower the exponent. -/
theorem le_exponent_strip (digits : Nat) (exponent : Int) :
    exponent ≤ (Decimal.strip digits exponent).exponent := by
  induction digits using Nat.strongRecOn generalizing exponent with
  | ind digits ih =>
      rw [Decimal.strip]
      split
      · exact Int.le_refl _
      · exact Int.le_trans (Int.le.intro 1 rfl) (ih (digits / 10) (by omega) (exponent + 1))

/-- The search among the grids ends with digits from one of them, none of which is finer than
seventeen digits. -/
theorem exists_shortestOfRank_eq {rank : Nat} (positive : 0 < rank) :
    ∃ digits exponent, shortestOfRank rank = Decimal.strip digits exponent ∧
      leadingExponent rank - 16 ≤ exponent ∧ RoundsTo rank ⟨digits, exponent⟩ := by
  unfold shortestOfRank
  simp only []
  generalize search : List.findSome? _ (List.range 17) = found
  cases found with
  | none =>
      have last := (List.findSome?_eq_none_iff.mp search) 16 (List.mem_range.mpr (by decide))
      obtain ⟨digits, some⟩ :=
        Option.isSome_iff_exists.mp (neighbour?_isSome positive (fine_of_leadingExponent positive))
      simp only [some, Option.map_some] at last
      cases last
  | some decimal =>
      obtain ⟨extra, few, here⟩ := List.exists_of_findSome?_eq_some search
      obtain ⟨digits, neighbour, rfl⟩ := Option.map_eq_some_iff.mp here
      have count := List.mem_range.mp few
      exact ⟨digits, _, rfl, by omega, roundsTo_of_neighbour? neighbour⟩

/-- **The digits of a double round to it**, and they do not end in a zero. -/
theorem roundsTo_shortest {rank : Nat} (positive : 0 < rank) :
    RoundsTo rank (shortest rank) ∧ (shortest rank).digits % 10 ≠ 0 := by
  obtain ⟨digits, exponent, same, _, rounds⟩ := exists_shortestOfRank_eq positive
  unfold shortest
  rw [if_neg (Nat.ne_of_gt positive), same]
  have stripped := roundsTo_strip rounds
  refine ⟨stripped, (strip_digits digits exponent).resolve_left fun none => ?_⟩
  have lower := Nearest.lower stripped
  rw [none, Nat.zero_mul] at lower
  have units : 0 < unitsOfRank (rank - 1) + unitsOfRank rank :=
    Nat.add_pos_right _ (unitsOfRank_pos positive)
  exact absurd lower (Nat.not_le_of_gt (Nat.mul_pos units (Nat.pow_pos (by decide))))

/-- The digits of a double have at most four hundred and sixteen places. -/
theorem le_exponent_shortest {rank : Nat} (positive : 0 < rank) :
    -416 ≤ (shortest rank).exponent := by
  obtain ⟨digits, exponent, same, least, _⟩ := exists_shortestOfRank_eq positive
  obtain ⟨up, leading, _⟩ :=
    exists_leading (unitsOfRank_pos positive) (@unitsPerOne_le 400 (by decide))
  have stripped := le_exponent_strip digits exponent
  unfold shortest
  rw [if_neg (Nat.ne_of_gt positive), same]
  unfold leadingExponent at least
  omega

/-! ## Reading the digits back -/

/-- A magnitude with a fraction has digits after the point. -/
theorem exists_places_of_fraction {rank : Nat} (fraction : unitsOfRank rank % unitsPerOne ≠ 0) :
    ∃ places, (shortest rank).exponent = Int.negSucc places := by
  have rounds := (roundsTo_shortest (rank_pos_of_fraction fraction)).1
  cases same : (shortest rank).exponent with
  | negSucc places => exact ⟨places, rfl⟩
  | ofNat zeros =>
      -- A whole number that rounds to the rank would be the magnitude itself.
      exfalso
      unfold RoundsTo at rounds
      rw [same] at rounds
      have whole : (shortest rank).digits * (unitsPerOne * 10 ^ (Int.ofNat zeros).toNat) =
          (shortest rank).digits * 10 ^ zeros * unitsPerOne := by
        rw [Int.ofNat_eq_natCast, Int.toNat_natCast]
        ring
      have unscaled : (10 : Nat) ^ (-Int.ofNat zeros).toNat = 1 := by simp
      rw [whole, unscaled] at rounds
      have found := rounds.unique Nat.one_pos (nearest_rankOfUnits _ Nat.one_pos)
      have sides := compare_rank_of_whole ((shortest rank).digits * 10 ^ zeros) fraction
      rw [← found, Nat.compare_eq_eq.mpr rfl] at sides
      have equal := Nat.compare_eq_eq.mp sides.symm
      rw [← equal, Nat.mul_mod_left] at fraction
      exact fraction rfl

/-- Less than seventeen digits of a magnitude with a fraction stand before the point. -/
theorem length_le_of_fraction {rank places : Nat}
    (fraction : unitsOfRank rank % unitsPerOne ≠ 0)
    (same : (shortest rank).exponent = Int.negSucc places) :
    Decimal.length (shortest rank).digits ≤ places + 17 := by
  have rounds := (roundsTo_shortest (rank_pos_of_fraction fraction)).1
  unfold RoundsTo at rounds
  rw [same] at rounds
  have upper := rounds.upper
  have bound := unitsOfRank_lt_of_fraction fraction
  have next : unitsOfRank (rank + 1) ≤ 2 ^ 52 * unitsPerOne := by
    rw [← unitsOfRank_power (show 52 ≤ 52 by decide)] at bound ⊢
    exact unitsOfRank_le_iff.mpr (unitsOfRank_lt_iff.mp bound)
  refine Radix.length_digits_le (by omega) ?_
  refine Nat.lt_of_mul_lt_mul_right (a := 2 * unitsPerOne) ?_
  calc (shortest rank).digits * (2 * unitsPerOne)
      = 2 * ((shortest rank).digits * (unitsPerOne * 10 ^ (Int.negSucc places).toNat)) := by
        rw [Int.toNat_negSucc]; ring
    _ ≤ (unitsOfRank rank + unitsOfRank (rank + 1)) * 10 ^ (places + 1) := upper
    _ ≤ (2 ^ 52 * unitsPerOne + 2 ^ 52 * unitsPerOne) * 10 ^ (places + 1) :=
        Nat.mul_le_mul_right _ (Nat.add_le_add (Nat.le_of_lt bound) next)
    _ = 2 ^ 52 * 10 ^ (places + 1) * (2 * unitsPerOne) := by ring
    _ < 10 ^ (places + 17) * (2 * unitsPerOne) := by
        refine Nat.mul_lt_mul_of_pos_right ?_ (Nat.mul_pos (by decide) unitsPerOne_pos)
        rw [show places + 17 = 16 + (places + 1) by omega, Nat.pow_add 10 16]
        exact Nat.mul_lt_mul_of_pos_right (by decide) (Nat.pow_pos (by decide))

/-- The least positive double has less than three hundred and twenty-four zeros after the point. -/
theorem lt_length_of_places {rank places : Nat} (positive : 0 < rank)
    (same : (shortest rank).exponent = Int.negSucc places) :
    places + 1 < Decimal.length (shortest rank).digits + 324 := by
  have rounds := (roundsTo_shortest positive).1
  unfold RoundsTo at rounds
  rw [same] at rounds
  have lower := rounds.lower
  have units := unitsOfRank_pos positive
  have tiny : 2 * unitsPerOne ≤ 10 ^ 324 := by decide +kernel
  refine (Nat.pow_lt_pow_iff_right (show 1 < 10 by decide)).mp ?_
  calc 10 ^ (places + 1)
      ≤ (unitsOfRank (rank - 1) + unitsOfRank rank) * 10 ^ (places + 1) :=
        Nat.le_mul_of_pos_left _ (Nat.add_pos_right _ units)
    _ ≤ 2 * ((shortest rank).digits * (unitsPerOne * 10 ^ (Int.negSucc places).toNat)) := lower
    _ = (shortest rank).digits * (2 * unitsPerOne) := by rw [Int.toNat_negSucc]; ring
    _ < 10 ^ Decimal.length (shortest rank).digits * (2 * unitsPerOne) :=
        Nat.mul_lt_mul_of_pos_right (Radix.lt_pow_length_digits _)
          (Nat.mul_pos (by decide) unitsPerOne_pos)
    _ ≤ 10 ^ Decimal.length (shortest rank).digits * 10 ^ 324 := Nat.mul_le_mul_left _ tiny
    _ = _ := (Nat.pow_add ..).symm

/-- **Reading the shortest digits of a double with a fraction gives the double back.** -/
theorem ofDecimal_shortest (negative : Bool) {rank : Fin (2047 * 2 ^ 52)}
    (fraction : unitsOfRank rank % unitsPerOne ≠ 0) :
    ofDecimal negative (shortest rank).digits (shortest rank).exponent = .finite negative rank := by
  have positive := rank_pos_of_fraction fraction
  obtain ⟨rounds, last⟩ := roundsTo_shortest positive
  obtain ⟨places, same⟩ := exists_places_of_fraction fraction
  have high := length_le_of_fraction fraction same
  have low := lt_length_of_places positive same
  unfold ofDecimal
  unfold RoundsTo at rounds
  rw [same] at rounds ⊢
  simp only []
  rw [if_neg (by omega), if_neg (by omega), if_neg (by omega)]
  unfold ofRatio
  have magnitude : (shortest rank).digits * (unitsPerOne * 10 ^ (Int.negSucc places).toNat) =
      (shortest rank).digits * unitsPerOne := by rw [Int.toNat_negSucc]; ring
  rw [magnitude] at rounds
  have scale : 0 < 10 ^ (places + 1) := Nat.pow_pos (by decide)
  rw [(nearest_rankOfUnits _ scale).unique scale rounds]
  exact dif_pos rank.isLt

end Rego.Double
