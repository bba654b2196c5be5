import Rego.Proofs.Double.Closest
import Rego.Proofs.Number.Exact

/-!
# Division and remainder

The remainder of two numbers of integral value is that of a division that truncates
(`isRemainder_tmod`), in whatever representation they are, and it is refused for a zero divisor
before anything else (`modulo_fits_divide`). Where it is zero the quotient of two integers is exact.
Any other quotient of integers goes through doubles: both operands are rounded first. A finite
dividend stays finite, as rounding keeps a divisor away from zero, and an infinite one stays
infinite or becomes a NaN. So the division overflows with its dividend, however large the divisor is
(`divide_overflows_iff`).
-/

namespace Rego

set_option autoImplicit false

/-! ## Remainders -/

/-- A remainder is smaller than the divisor, has the sign of the dividend unless it is zero, and
differs from the dividend by a multiple of the divisor. -/
structure IsRemainder (dividend divisor remainder : Int) : Prop where
  small : remainder.natAbs < divisor.natAbs
  sign : remainder = 0 ∨ remainder.sign = dividend.sign
  divides : divisor ∣ dividend - remainder

theorem isRemainder_tmod (dividend : Int) {divisor : Int} (nonzero : divisor ≠ 0) :
    IsRemainder dividend divisor (dividend.tmod divisor) where
  small := by
    rw [Int.natAbs_tmod]
    exact Nat.mod_lt _ (Int.natAbs_pos.mpr nonzero)
  sign := by
    by_cases divides : divisor ∣ dividend
    · exact .inl (Int.tmod_eq_zero_of_dvd divides)
    · right
      rw [Int.sign_tmod, if_neg divides]
  divides := Int.dvd_self_sub_tmod

/-- A remainder is on the same side of zero as the dividend. -/
theorem IsRemainder.side {dividend divisor remainder : Int}
    (is : IsRemainder dividend divisor remainder) :
    (0 ≤ dividend → 0 ≤ remainder) ∧ (dividend ≤ 0 → remainder ≤ 0) := by
  rcases is.sign with rfl | same
  · exact ⟨fun _ => Int.le_refl 0, fun _ => Int.le_refl 0⟩
  · constructor
    · intro above
      rw [← Int.sign_nonneg_iff, same]
      exact Int.sign_nonneg_iff.mpr above
    · intro below
      rw [← Int.sign_nonpos_iff, same]
      exact Int.sign_nonpos_iff.mpr below

/-- **A division has one remainder.** -/
theorem IsRemainder.unique {dividend divisor first second : Int}
    (one : IsRemainder dividend divisor first) (two : IsRemainder dividend divisor second) :
    first = second := by
  have divides : divisor ∣ first - second := by
    have difference := Int.dvd_sub two.divides one.divides
    rwa [show dividend - second - (dividend - first) = first - second by omega] at difference
  have small : (first - second).natAbs < divisor.natAbs := by
    have sideOne := one.side
    have sideTwo := two.side
    have smallOne := one.small
    have smallTwo := two.small
    omega
  have none := Int.eq_zero_of_dvd_of_natAbs_lt_natAbs divides small
  omega

namespace Double

/-! ## Quotients of rounded integers -/

theorem ofInt_cases (value : Int) :
    (∃ rank, ofInt value = .finite (value < 0) rank ∧
      rank.val = rankOfUnits (value.natAbs * unitsPerOne) 1) ∨
    ofInt value = .infinite (value < 0) := by
  unfold ofInt ofRatio ofRank
  split
  · exact .inl ⟨_, rfl, rfl⟩
  · exact .inr rfl

/-- An integer is a finite double exactly if it is below the last midpoint. -/
theorem isFinite_ofInt_iff {value : Int} :
    (ofInt value).isFinite = true ↔ value.natAbs < overflowBound := by
  rw [← rankOfUnits_whole_lt_iff]
  unfold ofInt ofRatio ofRank
  split
  · next below => exact iff_of_true rfl below
  · next above => exact iff_of_false Bool.false_ne_true above

/-- Rounding keeps a nonzero integer away from zero, so its magnitude is at least one. -/
theorem unitsPerOne_le_unitsOfRank {whole : Nat} (positive : 0 < whole) :
    unitsPerOne ≤ unitsOfRank (rankOfUnits (whole * unitsPerOne) 1) := by
  obtain ⟨one, spelled⟩ := exists_rank_of_whole (show 1 < 2 ^ 53 by decide)
  rw [Nat.one_mul] at spelled
  have least : one ≤ rankOfUnits (whole * unitsPerOne) 1 := by
    rw [← rankOfUnits_unitsOfRank one, spelled]
    refine rankOfUnits_le_of_le Nat.one_pos Nat.one_pos (Nat.mul_le_mul_right 1 ?_)
    exact Nat.le_mul_of_pos_left _ positive
  calc unitsPerOne = unitsOfRank one := spelled.symm
    _ ≤ unitsOfRank (rankOfUnits (whole * unitsPerOne) 1) := unitsOfRank_le_iff.mpr least

/-- A quotient by at least one is at most the dividend, so it stays finite. -/
theorem isFinite_div_of_le (negative negative' : Bool) (rank : Fin (2047 * 2 ^ 52))
    {rank' : Fin (2047 * 2 ^ 52)} (least : unitsPerOne ≤ unitsOfRank rank') :
    ((finite negative rank).div (finite negative' rank')).isFinite = true := by
  have positive : 0 < unitsOfRank rank' := unitsPerOne_pos.trans_le least
  have some : rank'.val ≠ 0 := mt unitsOfRank_eq_zero_iff.mpr positive.ne'
  have small : rankOfUnits (unitsOfRank rank * unitsPerOne) (unitsOfRank rank') ≤ rank := by
    rw [← rankOfUnits_unitsOfRank rank]
    refine rankOfUnits_le_of_le positive Nat.one_pos ?_
    rw [rankOfUnits_unitsOfRank, Nat.mul_one]
    exact Nat.mul_le_mul_left _ least
  rw [div, if_neg some, ofRatio, ofRank, dif_pos (small.trans_lt rank.isLt)]
  rfl

/-- **A quotient of rounded integers is finite exactly if the dividend is.** -/
theorem isFinite_div_ofInt {dividend divisor : Int} (nonzero : divisor ≠ 0) :
    ((ofInt dividend).div (ofInt divisor)).isFinite = (ofInt dividend).isFinite := by
  rcases ofInt_cases dividend with ⟨rank, one, _⟩ | one <;>
    rcases ofInt_cases divisor with ⟨rank', two, rounded⟩ | two <;> rw [one, two]
  · refine isFinite_div_of_le _ _ rank ?_
    rw [rounded]
    exact unitsPerOne_le_unitsOfRank (Int.natAbs_pos.mpr nonzero)
  all_goals rfl

end Double

namespace Number

variable {left right : Number} {dividend divisor : Int}

/-- A number is zero if its value is. -/
theorem isZero_iff {number : Number} : number.isZero = true ↔ number.Denotes 0 := by
  rw [← toInt?_eq_some_iff]
  cases number with
  | word value =>
      rw [isZero, beq_iff_eq, toInt?, Option.some.injEq, ← Int64.toInt_inj]
      exact Iff.rfl
  | @big value outside =>
      refine iff_of_false Bool.false_ne_true fun zero => outside ?_
      rw [Option.some.inj zero]
      decide
  | float value =>
      cases value with
      | notNumber _ _ => exact iff_of_false Bool.false_ne_true (Option.some_ne_none 0).symm
      | infinite _ => exact iff_of_false Bool.false_ne_true (Option.some_ne_none 0).symm
      | finite negative rank =>
          rw [isZero, Double.isZero, beq_iff_eq, ← Double.unitsOfRank_eq_zero_iff]
          constructor
          · intro zero
            simp [toInt?, Double.toInt?, zero, Double.signed]
          · intro zero
            have units := units?_of_toInt? zero
            simp only [units?, Double.units?, Option.some.injEq, Int.zero_mul] at units
            rw [← natAbs_signed negative (Double.unitsOfRank rank), units, Int.natAbs_zero]

theorem Denotes.isZero_eq_false (denotes : right.Denotes divisor) (nonzero : divisor ≠ 0) :
    right.isZero = false := by
  rw [← Bool.not_eq_true, isZero_iff, ← toInt?_eq_some_iff, toInt?_eq_some_iff.mpr denotes,
    Option.some.injEq]
  exact nonzero

theorem denotes_of_integer? {number : Number} {whole : Int} (read : number.integer? = some whole) :
    number.Denotes whole := by
  rw [← toInt?_eq_some_iff, integer?_eq_some_iff.mp read, toInt?_ofInt]

theorem modulo_of_denotes (one : left.Denotes dividend) (two : right.Denotes divisor)
    (nonzero : divisor ≠ 0) : left.modulo right = .ok (ofInt (dividend.tmod divisor)) := by
  unfold modulo
  rw [two.isZero_eq_false nonzero, toInt?_eq_some_iff.mpr one, toInt?_eq_some_iff.mpr two]
  rfl

theorem modulo_of_zero (zero : right.Denotes 0) : left.modulo right = .error .moduloByZero := by
  unfold modulo
  rw [if_pos (isZero_iff.mpr zero)]

theorem modulo_of_fraction (nonzero : ¬right.Denotes 0)
    (fraction : ¬(left.IsWhole ∧ right.IsWhole)) :
    left.modulo right = .error .moduloOnFraction := by
  unfold modulo
  rw [if_neg (mt isZero_iff.mp nonzero)]
  split
  · next one two =>
      exact absurd ⟨⟨_, toInt?_eq_some_iff.mp one⟩, ⟨_, toInt?_eq_some_iff.mp two⟩⟩ fraction
  · rfl

/-- A remainder is taken, or refused for one of two reasons. -/
theorem modulo_cases (left right : Number) :
    (right.Denotes 0 ∧ left.modulo right = .error .moduloByZero) ∨
    ((¬right.Denotes 0 ∧ ¬(left.IsWhole ∧ right.IsWhole)) ∧
      left.modulo right = .error .moduloOnFraction) ∨
    ((¬right.Denotes 0 ∧ left.IsWhole ∧ right.IsWhole) ∧
      ∃ remainder, left.modulo right = .ok remainder) := by
  by_cases zero : right.Denotes 0
  · exact .inl ⟨zero, modulo_of_zero zero⟩
  by_cases whole : left.IsWhole ∧ right.IsWhole
  · obtain ⟨⟨dividend, one⟩, ⟨divisor, two⟩⟩ := whole
    have nonzero : divisor ≠ 0 := by
      rintro rfl
      exact zero two
    exact .inr (.inr ⟨⟨zero, ⟨_, one⟩, ⟨_, two⟩⟩, _, modulo_of_denotes one two nonzero⟩)
  · exact .inr (.inl ⟨⟨zero, whole⟩, modulo_of_fraction zero whole⟩)

/-! ## Quotients -/

theorem divide_of_dvd (one : left.integer? = some dividend) (two : right.integer? = some divisor)
    (nonzero : divisor ≠ 0) (divides : divisor ∣ dividend) :
    left.divide right = .ok (ofInt (dividend.tdiv divisor)) := by
  unfold divide
  rw [(denotes_of_integer? two).isZero_eq_false nonzero, one, two]
  dsimp only
  rw [if_neg Bool.false_ne_true, if_pos (Int.tmod_eq_zero_of_dvd divides)]

theorem toDouble_of_integer? {number : Number} {whole : Int} (read : number.integer? = some whole) :
    number.toDouble = Double.ofInt whole := by
  cases number with
  | word value => cases read; rfl
  | big value => cases read; rfl
  | float value => cases read

theorem divide_of_not_dvd (one : left.integer? = some dividend)
    (two : right.integer? = some divisor) (nonzero : divisor ≠ 0) (remains : ¬divisor ∣ dividend) :
    left.divide right = ofFinite ((Double.ofInt dividend).div (Double.ofInt divisor)) := by
  unfold divide
  rw [(denotes_of_integer? two).isZero_eq_false nonzero, one, two, toDouble_of_integer? one,
    toDouble_of_integer? two]
  dsimp only
  rw [if_neg Bool.false_ne_true, if_neg (mt Int.dvd_of_tmod_eq_zero remains)]

/-- **Division and remainder fit together.** Two numbers of integral value, in whatever
representations, have a remainder unless the divisor is zero, and it is their only remainder. Where
it is zero, the quotient of two integers is exact. A remainder is refused for a zero divisor, and
otherwise for an operand without integral value. -/
theorem modulo_fits_divide :
    (∀ (left right : Number) (dividend divisor : Int), left.Denotes dividend →
      right.Denotes divisor → divisor ≠ 0 →
        ∃ remainder, left.modulo right = .ok (ofInt remainder) ∧
          (∀ other, IsRemainder dividend divisor other ↔ other = remainder) ∧
          (left.integer? = some dividend → right.integer? = some divisor → remainder = 0 →
            ∃ quotient, left.divide right = .ok (ofInt quotient) ∧ quotient * divisor = dividend)) ∧
    (∀ left right : Number,
      (left.modulo right = .error .moduloByZero ↔ right.Denotes 0) ∧
      (left.modulo right = .error .moduloOnFraction ↔ ¬right.Denotes 0 ∧
        ¬(left.IsWhole ∧ right.IsWhole)) ∧
      ((∃ reason, left.modulo right = .error reason) ↔ right.Denotes 0 ∨
        ¬(left.IsWhole ∧ right.IsWhole))) ∧
    ArithmeticError.moduloByZero.message = "modulo by zero" := by
  refine ⟨?_, ?_, rfl⟩
  · intro left right dividend divisor one two nonzero
    have is := isRemainder_tmod dividend nonzero
    refine ⟨_, modulo_of_denotes one two nonzero,
      fun other => ⟨fun another => another.unique is, fun same => same ▸ is⟩, ?_⟩
    intro whole whole' none
    have divides := Int.dvd_of_tmod_eq_zero none
    exact ⟨_, divide_of_dvd whole whole' nonzero divides, Int.tdiv_mul_cancel divides⟩
  · intro left right
    rcases modulo_cases left right with
      ⟨zero, refused⟩ | ⟨fraction, refused⟩ | ⟨whole, remainder, taken⟩
    · simp [refused, zero]
    · simp [refused, fraction.1, fraction.2]
    · simp [taken, whole.1, whole.2]

/-- The least word divided by minus one leaves the words; a remainder of a whole double has the sign
of the dividend; a zero divisor is refused before a fraction. -/
theorem modulo_fits_divide_mixed :
    ((ofInt (-(2 ^ 63))).modulo (ofInt (-1)) = .ok (ofInt 0) ∧
      (ofInt (-(2 ^ 63))).divide (ofInt (-1)) = .ok (ofInt (2 ^ 63))) ∧
    (ofInt (-7)).modulo (.float (.ofBits 0x4008000000000000)) = .ok (ofInt (-1)) ∧
    (float (.ofBits 0x3fe0000000000000)).modulo (.float (.signedZero true)) =
      .error .moduloByZero := by
  obtain ⟨taken, refused, _⟩ := modulo_fits_divide
  have denotes : ∀ whole, (ofInt whole).Denotes whole :=
    fun whole => toInt?_eq_some_iff.mp (toInt?_ofInt whole)
  have three : (float (.ofBits 0x4008000000000000)).Denotes 3 :=
    toInt?_eq_some_iff.mp (by decide +kernel)
  have zero : (float (.signedZero true)).Denotes 0 := toInt?_eq_some_iff.mp (by decide +kernel)
  refine ⟨?_, ?_, (refused _ _).1.mpr zero⟩
  · obtain ⟨remainder, found, only, exact'⟩ :=
      taken _ _ _ _ (denotes (-(2 ^ 63))) (denotes (-1)) (by decide)
    have none : 0 = remainder := (only 0).mp ⟨by decide, .inl rfl, by decide⟩
    subst none
    obtain ⟨quotient, divided, inverse⟩ := exact' (integer?_ofInt _) (integer?_ofInt _) rfl
    rw [show quotient = 2 ^ 63 by omega] at divided
    exact ⟨found, divided⟩
  · obtain ⟨remainder, found, only, _⟩ := taken _ _ _ _ (denotes (-7)) three (by decide)
    have one : -1 = remainder := (only (-1)).mp ⟨by decide, .inr rfl, by decide⟩
    rw [one]
    exact found

/-! ## Overflowing quotients -/

theorem ofFinite_eq_ok_iff {value : Double} :
    (∃ number, ofFinite value = .ok number) ↔ value.isFinite = true := by
  unfold ofFinite
  split <;> simp [*]

theorem ofFinite_eq_overflow_iff {value : Double} :
    ofFinite value = .error .overflow ↔ value.isFinite = false := by
  unfold ofFinite
  split <;> simp_all

/-- A quotient with a remainder overflows exactly if the dividend is out of range. -/
theorem divide_eq_overflow_iff_of_not_dvd (one : left.integer? = some dividend)
    (two : right.integer? = some divisor) (nonzero : divisor ≠ 0) (remains : ¬divisor ∣ dividend) :
    left.divide right = .error .overflow ↔ Double.overflowBound ≤ dividend.natAbs := by
  rw [divide_of_not_dvd one two nonzero remains, ofFinite_eq_overflow_iff,
    Double.isFinite_div_ofInt nonzero, ← Bool.not_eq_true, Double.isFinite_ofInt_iff, Nat.not_lt]

/-- **A division of integers overflows with its dividend.** It does if the division leaves a
remainder and the dividend is out of the range of doubles, whatever the divisor is, and in all other
cases it gives a number. -/
theorem divide_overflows_iff (one : left.integer? = some dividend)
    (two : right.integer? = some divisor) (nonzero : divisor ≠ 0) :
    (left.divide right = .error .overflow ↔
      ¬divisor ∣ dividend ∧ Double.overflowBound ≤ dividend.natAbs) ∧
    ((∃ quotient, left.divide right = .ok quotient) ↔
      divisor ∣ dividend ∨ dividend.natAbs < Double.overflowBound) := by
  by_cases divides : divisor ∣ dividend
  · rw [divide_of_dvd one two nonzero divides]
    simp [divides]
  · rw [divide_eq_overflow_iff_of_not_dvd one two nonzero divides,
      divide_of_not_dvd one two nonzero divides, ofFinite_eq_ok_iff,
      Double.isFinite_div_ofInt nonzero, Double.isFinite_ofInt_iff]
    simp [divides]

/-- A divisor out of range is no obstacle, but a dividend is, also where the quotient is about ten.
-/
theorem divide_overflows_iff_wide :
    (∃ quotient, (ofInt 1).divide (ofInt (10 ^ 309)) = .ok quotient) ∧
    (ofInt (10 ^ 400 + 1)).divide (ofInt (10 ^ 399)) = .error .overflow :=
  ⟨(divide_overflows_iff (integer?_ofInt 1) (integer?_ofInt (10 ^ 309)) (by decide +kernel)).2.mpr
      (.inr (by decide +kernel)),
    (divide_overflows_iff (integer?_ofInt (10 ^ 400 + 1)) (integer?_ofInt (10 ^ 399))
      (by decide +kernel)).1.mpr (by decide +kernel)⟩

/-- A quotient that is in the range of doubles by far can still overflow. -/
theorem not_divide_within_range :
    ¬∀ (left right : Number) (dividend divisor : Int), left.integer? = some dividend →
      right.integer? = some divisor → divisor ≠ 0 →
        dividend.natAbs < 2 ^ 1023 * divisor.natAbs →
          ∃ quotient, left.divide right = .ok quotient := by
  intro all
  have overflow := (divide_eq_overflow_iff_of_not_dvd (integer?_ofInt (10 ^ 309 + 1))
    (integer?_ofInt (10 ^ 309)) (by decide +kernel) (by decide +kernel)).mpr (by decide +kernel)
  obtain ⟨quotient, given⟩ := all _ _ _ _ (integer?_ofInt (10 ^ 309 + 1))
    (integer?_ofInt (10 ^ 309)) (by decide +kernel) (by decide +kernel)
  rw [overflow] at given
  cases given

end Number

end Rego
