import Mathlib.Data.Rat.Floor
import Mathlib.Tactic.Linarith
import Mathlib.Tactic.NormNum
import Rego.Proofs.Number.Exact

/-!
# Rounding to integers

Numbers are rounded down, up, towards zero and to the nearest integer. In each of these ways the
result is one of the two integers around the value (`Rounding`), and nothing else is needed to see
that it is written exactly: a double whose two integers differ is below `2 ^ 52`, so the result has
few enough digits to become an integer, and any other double is an integer already
(`Rounding.denotes_roundWith`). Rounding a second time changes nothing (`roundWith_roundWith`).

Which of the two integers it is (`roundings_exact`) is a fact about rationals. The ways that look
at magnitudes are given from zero on and mirrored below zero (`mirrored`).
-/

namespace Rego

set_option autoImplicit false

open Double

/-! ## Rounding rationals -/

/-- A rule for values from zero on, mirrored below zero. -/
def mirrored (rule : ℚ → Int) (value : ℚ) : Int :=
  if 0 ≤ value then rule value else -rule (-value)

/-- The integer next to a value towards zero. -/
def inwardInteger : ℚ → Int := mirrored fun value => ⌊value⌋

/-- The nearest integer, halves away from zero. -/
def nearestInteger : ℚ → Int := mirrored fun value => ⌊value + 1 / 2⌋

/-- Nearer to a value than any other integer, and of two equally near ones the one with the larger
magnitude. -/
structure IsNearestInteger (value : ℚ) (whole : Int) : Prop where
  closest : ∀ other : Int, |value - whole| ≤ |value - other|
  outward : ∀ other : Int, |value - other| = |value - whole| → |other| ≤ |whole|

theorem isGreatest_floor (value : ℚ) : IsGreatest {whole : Int | (whole : ℚ) ≤ value} ⌊value⌋ :=
  ⟨Int.floor_le value, fun _ below => Int.le_floor.mpr below⟩

theorem isLeast_ceil (value : ℚ) : IsLeast {whole : Int | value ≤ (whole : ℚ)} ⌈value⌉ :=
  ⟨Int.le_ceil value, fun _ above => Int.ceil_le.mpr above⟩

/-! ### Towards zero -/

theorem inwardInteger_eq (value : ℚ) :
    inwardInteger value = if 0 ≤ value then ⌊value⌋ else ⌈value⌉ := by
  unfold inwardInteger mirrored
  split
  · rfl
  · dsimp only
    rw [Int.floor_neg, Int.neg_neg]

/-- Of the two integers around a value, the one towards zero has the smaller magnitude. -/
theorem inwardInteger_nearer (value : ℚ) :
    (inwardInteger value = ⌊value⌋ ∨ inwardInteger value = ⌈value⌉) ∧
      |inwardInteger value| ≤ |⌊value⌋| ∧ |inwardInteger value| ≤ |⌈value⌉| := by
  have between : ⌊value⌋ ≤ ⌈value⌉ := Int.floor_le_ceil value
  rw [inwardInteger_eq]
  split
  · next above =>
      have positive : 0 ≤ ⌊value⌋ := Int.floor_nonneg.mpr above
      refine ⟨.inl rfl, le_refl _, ?_⟩
      rw [abs_of_nonneg positive, abs_of_nonneg (positive.trans between)]
      exact between
  · next below =>
      have negative : ⌈value⌉ ≤ 0 := Int.ceil_nonpos.mpr (le_of_not_ge below)
      refine ⟨.inr rfl, ?_, le_refl _⟩
      rw [abs_of_nonpos negative, abs_of_nonpos (between.trans negative)]
      exact neg_le_neg between

/-! ### To the nearest integer -/

theorem IsNearestInteger.neg {value : ℚ} {whole : Int} (nearest : IsNearestInteger value whole) :
    IsNearestInteger (-value) (-whole) := by
  have flip : ∀ other : Int, |-value - other| = |value - (-other : Int)| := by
    intro other
    rw [← abs_neg]
    push_cast
    ring_nf
  constructor
  · intro other
    rw [flip, flip, Int.neg_neg]
    exact nearest.closest (-other)
  · intro other same
    rw [flip, flip, Int.neg_neg] at same
    rw [abs_neg, ← abs_neg other]
    exact nearest.outward (-other) same

/-- From zero on, a half is rounded up. -/
theorem isNearestInteger_floor {value : ℚ} (above : 0 ≤ value) :
    IsNearestInteger value ⌊value + 1 / 2⌋ := by
  have low : (⌊value + 1 / 2⌋ : ℚ) ≤ value + 1 / 2 := Int.floor_le _
  have high : value + 1 / 2 < ⌊value + 1 / 2⌋ + 1 := Int.lt_floor_add_one _
  have positive : 0 ≤ ⌊value + 1 / 2⌋ := Int.floor_nonneg.mpr (by linarith)
  generalize ⌊value + 1 / 2⌋ = whole at low high positive
  have near : |value - whole| ≤ 1 / 2 := abs_le.mpr ⟨by linarith, by linarith⟩
  -- An integer below is a half or more away, and one above is more than a half away.
  have far : ∀ other : Int, other < whole → 1 / 2 ≤ |value - other| := by
    intro other less
    have step : (other : ℚ) + 1 ≤ whole := by exact_mod_cast less
    exact (by linarith : 1 / 2 ≤ value - other).trans (le_abs_self _)
  have farther : ∀ other : Int, whole < other → 1 / 2 < |value - other| := by
    intro other more
    have step : (whole : ℚ) + 1 ≤ other := by exact_mod_cast more
    rw [abs_sub_comm]
    exact (by linarith : 1 / 2 < other - value).trans_le (le_abs_self _)
  constructor
  · intro other
    rcases lt_trichotomy other whole with less | rfl | more
    · exact near.trans (far other less)
    · exact le_refl _
    · exact near.trans (farther other more).le
  · intro other same
    have close : |value - other| ≤ 1 / 2 := same ▸ near
    have less : other ≤ whole := le_of_not_gt fun more => not_le_of_gt (farther other more) close
    have natural : 0 ≤ other := by
      by_contra negative
      have step : (other : ℚ) ≤ -1 := by exact_mod_cast Int.le_sub_one_of_lt (not_le.mp negative)
      have apart : 1 ≤ |value - other| := (by linarith : 1 ≤ value - other).trans (le_abs_self _)
      linarith
    rw [abs_of_nonneg positive, abs_of_nonneg natural]
    exact less

theorem isNearestInteger_nearestInteger (value : ℚ) :
    IsNearestInteger value (nearestInteger value) := by
  unfold nearestInteger mirrored
  split
  · next above => exact isNearestInteger_floor above
  · next below =>
      have opposite := (isNearestInteger_floor (neg_nonneg.mpr (le_of_not_ge below))).neg
      rwa [neg_neg] at opposite

/-- An integer less than a half away is the nearest one. -/
theorem isNearestInteger_of_lt_half {value : ℚ} {whole : Int} (near : |value - whole| < 1 / 2) :
    IsNearestInteger value whole := by
  have farther : ∀ other : Int, other ≠ whole → 1 / 2 < |value - other| := by
    intro other different
    have apart : (1 : ℚ) ≤ |(whole : ℚ) - other| := by
      exact_mod_cast Int.one_le_abs (sub_ne_zero.mpr different.symm)
    have between := abs_sub_le (whole : ℚ) value other
    rw [abs_sub_comm (whole : ℚ) value] at between
    linarith
  constructor
  · intro other
    by_cases same : other = whole
    · rw [same]
    · exact (near.trans (farther other same)).le
  · intro other same
    by_cases different : other = whole
    · rw [different]
    · exact absurd (same ▸ farther other different) (not_lt.mpr near.le)

/-- Close values have the same nearest integer if nothing halfway between integers is as close. -/
theorem IsNearestInteger.of_close {value other margin : ℚ} {whole : Int}
    (nearest : IsNearestInteger other whole) (close : |value - other| ≤ margin)
    (clear : ∀ below : Int, margin < |value - (below + 1 / 2)|) : IsNearestInteger value whole := by
  obtain ⟨downward, upward⟩ := abs_sub_le_iff.mp close
  have half : |other - whole| ≤ 1 / 2 := by
    have next := nearest.closest (whole + 1)
    have previous := nearest.closest (whole - 1)
    push_cast at next previous
    grind
  obtain ⟨above, below⟩ := abs_sub_le_iff.mp half
  refine isNearestInteger_of_lt_half (abs_sub_lt_iff.mpr ⟨?_, ?_⟩)
  · by_contra more
    have apart := clear whole
    rw [abs_of_nonneg (by linarith)] at apart
    linarith
  · by_contra less
    have apart := clear (whole - 1)
    push_cast at apart
    rw [abs_of_nonpos (by linarith)] at apart
    linarith

theorem IsNearestInteger.between {value : ℚ} {whole : Int}
    (nearest : IsNearestInteger value whole) : ⌊value⌋ ≤ whole ∧ whole ≤ ⌈value⌉ := by
  constructor
  · by_contra low
    have low' : (whole : ℚ) < ⌊value⌋ := Int.cast_lt.mpr (not_le.mp low)
    have below : (⌊value⌋ : ℚ) ≤ value := Int.floor_le value
    have closest := nearest.closest ⌊value⌋
    rw [abs_of_nonneg (by linarith), abs_of_nonneg (by linarith)] at closest
    linarith
  · by_contra high
    have high' : (⌈value⌉ : ℚ) < whole := Int.cast_lt.mpr (not_le.mp high)
    have above : value ≤ ⌈value⌉ := Int.le_ceil value
    have closest := nearest.closest ⌈value⌉
    rw [abs_of_nonpos (by linarith), abs_of_nonpos (by linarith)] at closest
    linarith

/-! ## Rounding doubles -/

namespace Number

/-- The value of a finite double. -/
def doubleValue (negative : Bool) (rank : Nat) : ℚ :=
  (signed negative (unitsOfRank rank) : ℚ) / unitsPerOne

theorem floor?_finite (negative : Bool) (rank : Fin (2047 * 2 ^ 52)) :
    floor? (.finite negative rank) = some ⌊doubleValue negative rank⌋ := by
  rw [floor?, doubleValue, Rat.floor_intCast_div_natCast, Int.fdiv_eq_ediv_of_nonneg]
  exact Int.natCast_nonneg _

theorem ceil?_finite (negative : Bool) (rank : Fin (2047 * 2 ^ 52)) :
    ceil? (.finite negative rank) = some ⌈doubleValue negative rank⌉ := by
  have opposite : -doubleValue negative rank =
      ((-signed negative (unitsOfRank rank) : Int) : ℚ) / unitsPerOne := by
    unfold doubleValue
    push_cast
    ring
  rw [ceil?, ← neg_neg (doubleValue negative rank), Int.ceil_neg, opposite,
    Rat.floor_intCast_div_natCast, Int.fdiv_eq_ediv_of_nonneg]
  exact Int.natCast_nonneg _

/-- A rule on magnitudes, with the sign put back, is the mirrored rule. -/
theorem mirrored_doubleValue {rule : ℚ → Int} {magnitude : Nat} (negative : Bool) (rank : Nat)
    (zero : rule 0 = 0) (found : rule ((unitsOfRank rank : ℚ) / unitsPerOne) = magnitude) :
    mirrored rule (doubleValue negative rank) = signed negative magnitude := by
  have nonneg : (0 : ℚ) ≤ (unitsOfRank rank : ℚ) / unitsPerOne :=
    div_nonneg (Nat.cast_nonneg _) (Nat.cast_nonneg _)
  cases negative with
  | false =>
      have same : doubleValue false rank = (unitsOfRank rank : ℚ) / unitsPerOne := rfl
      rw [same, mirrored, if_pos nonneg, found]
      rfl
  | true =>
      have same : doubleValue true rank = -((unitsOfRank rank : ℚ) / unitsPerOne) := by
        unfold doubleValue signed
        push_cast
        exact neg_div _ _
      rw [same, mirrored]
      split
      · next above =>
          have none : (unitsOfRank rank : ℚ) / unitsPerOne = 0 := by linarith
          rw [none, zero] at found
          rw [none, neg_zero, zero, Int.natCast_eq_zero.mp found.symm]
          rfl
      · rw [neg_neg, found]
        rfl

theorem trunc?_finite (negative : Bool) (rank : Fin (2047 * 2 ^ 52)) :
    trunc? (.finite negative rank) = some (inwardInteger (doubleValue negative rank)) := by
  refine congrArg some (mirrored_doubleValue negative rank Int.floor_zero ?_).symm
  exact Rat.floor_natCast_div_natCast _ _

theorem roundHalfUp_eq_floor (numerator : Nat) {denominator : Nat} (positive : 0 < denominator) :
    (roundHalfUp numerator denominator : Int) = ⌊(numerator : ℚ) / denominator + 1 / 2⌋ := by
  have nonzero : (denominator : ℚ) ≠ 0 := Nat.cast_ne_zero.mpr positive.ne'
  have same : (numerator : ℚ) / denominator + 1 / 2 =
      ((2 * numerator + denominator : Nat) : ℚ) / (2 * denominator : Nat) := by
    push_cast
    field_simp
  rw [same, Rat.floor_natCast_div_natCast]
  rfl

theorem round?_finite (negative : Bool) (rank : Fin (2047 * 2 ^ 52)) :
    round? (.finite negative rank) = some (nearestInteger (doubleValue negative rank)) := by
  refine congrArg some (mirrored_doubleValue negative rank ?_ ?_).symm
  · norm_num
  · exact (roundHalfUp_eq_floor _ unitsPerOne_pos).symm

theorem abs_doubleValue (negative : Bool) (rank : Nat) :
    |doubleValue negative rank| = (unitsOfRank rank : ℚ) / unitsPerOne := by
  have magnitude : |(signed negative (unitsOfRank rank) : ℚ)| = unitsOfRank rank := by
    cases negative <;> simp [signed]
  rw [doubleValue, abs_div, magnitude, Nat.abs_cast]

/-- A double with a fraction is below `2 ^ 52`. -/
theorem abs_doubleValue_lt (negative : Bool) {rank : Nat}
    (fraction : unitsOfRank rank % unitsPerOne ≠ 0) :
    |doubleValue negative rank| < (2 ^ 52 : Nat) := by
  rw [abs_doubleValue, div_lt_iff₀ unitsPerOne_cast_pos, ← Nat.cast_mul]
  exact Nat.cast_lt.mpr (unitsOfRank_lt_of_fraction fraction)

/-! ## Rounding numbers -/

/-- A way to round: a rule on doubles and the integers that it gives for their values, which are
between the two integers around them. -/
structure Rounding where
  rule : Double → Option Int
  integer : ℚ → Int
  rule_finite : ∀ (negative : Bool) (rank : Fin (2047 * 2 ^ 52)),
    rule (.finite negative rank) = some (integer (doubleValue negative rank))
  floor_le : ∀ value, ⌊value⌋ ≤ integer value
  le_ceil : ∀ value, integer value ≤ ⌈value⌉

namespace Rounding

/-- Rounding to the greatest integer that is not above. -/
def down : Rounding :=
  ⟨floor?, fun value => ⌊value⌋, floor?_finite, fun _ => le_refl _, Int.floor_le_ceil⟩

/-- Rounding to the least integer that is not below. -/
def up : Rounding :=
  ⟨ceil?, fun value => ⌈value⌉, ceil?_finite, Int.floor_le_ceil, fun _ => le_refl _⟩

/-- Rounding towards zero. -/
def inward : Rounding where
  rule := trunc?
  integer := inwardInteger
  rule_finite := trunc?_finite
  floor_le value := by
    rcases (inwardInteger_nearer value).1 with same | same <;> rw [same]
    exact Int.floor_le_ceil value
  le_ceil value := by
    rcases (inwardInteger_nearer value).1 with same | same <;> rw [same]
    exact Int.floor_le_ceil value

/-- Rounding to the nearest integer, halves away from zero. -/
def nearest : Rounding where
  rule := round?
  integer := nearestInteger
  rule_finite := round?_finite
  floor_le value := (isNearestInteger_nearestInteger value).between.1
  le_ceil value := (isNearestInteger_nearestInteger value).between.2

variable (rounding : Rounding)

/-- An integer is its own rounding. -/
theorem integer_intCast (whole : Int) : rounding.integer whole = whole := by
  have low := rounding.floor_le whole
  have high := rounding.le_ceil whole
  rw [Int.floor_intCast] at low
  rw [Int.ceil_intCast] at high
  exact le_antisymm high low

/-- The rounding of a value of small magnitude is not large. -/
theorem natAbs_integer_le {value : ℚ} {bound : Nat} (small : |value| ≤ bound) :
    (rounding.integer value).natAbs ≤ bound := by
  obtain ⟨low, high⟩ := abs_le.mp small
  have least : -(bound : Int) ≤ ⌊value⌋ := Int.le_floor.mpr (by exact_mod_cast low)
  have most : ⌈value⌉ ≤ (bound : Int) := Int.ceil_le.mpr (by exact_mod_cast high)
  have between := rounding.floor_le value
  have between' := rounding.le_ceil value
  omega

/-- A double whose rounding is large is an integer. -/
theorem exists_toInt?_of_large {negative : Bool} {rank : Fin (2047 * 2 ^ 52)}
    (large : exactDoubleBound ≤ (rounding.integer (doubleValue negative rank)).natAbs) :
    ∃ whole, Double.toInt? (.finite negative rank) = some whole := by
  by_cases fraction : unitsOfRank rank % unitsPerOne = 0
  · exact ⟨_, if_pos fraction⟩
  · have small := rounding.natAbs_integer_le (abs_doubleValue_lt negative fraction).le
    exact absurd (large.trans small) (by decide)

/-- **Rounding a number gives the integer for its value.** -/
theorem denotes_roundWith {number : Number} {value : ℚ}
    (known : number.exactValue? = some (rationalValue value)) :
    (roundWith rounding.rule number).Denotes (rounding.integer value) := by
  cases number with
  | word whole =>
      obtain rfl := rationalValue_injective (Option.some.inj known)
      rw [integer_intCast]
      exact known
  | big whole =>
      obtain rfl := rationalValue_injective (Option.some.inj known)
      rw [integer_intCast]
      exact known
  | float double =>
      cases double with
      | notNumber _ _ => cases known
      | infinite _ => exact absurd known (exactValue?_ne_of_units? rfl value)
      | finite negative rank =>
          obtain rfl : doubleValue negative rank = value :=
            rationalValue_injective (Option.some.inj known)
          simp only [roundWith, rounding.rule_finite]
          split
          · exact denotes_ofInt _
          · next large =>
              obtain ⟨whole, integral⟩ := rounding.exists_toInt?_of_large (not_lt.mp large)
              have denotes : (float (.finite negative rank)).Denotes whole :=
                toInt?_eq_some_iff.mp integral
              have same : doubleValue negative rank = whole :=
                rationalValue_injective (Option.some.inj (known.symm.trans denotes))
              rw [same, integer_intCast]
              exact denotes

variable {number : Number} {value : ℚ}

/-- An integral number equals its rounding. -/
theorem compare_roundWith_eq (known : number.exactValue? = some (rationalValue value))
    (integral : number.IsWhole) : (roundWith rounding.rule number).compare number = .eq := by
  obtain ⟨whole, denotes⟩ := integral
  have same : value = whole := rationalValue_injective (Option.some.inj (known.symm.trans denotes))
  have rounded := rounding.denotes_roundWith known
  rw [same, integer_intCast] at rounded
  exact compare_of_toInt? (toInt?_eq_some_iff.mpr rounded) (toInt?_eq_some_iff.mpr denotes)

/-- A double is rounded to an integer of small magnitude as a word. -/
theorem exists_word_of_small {double : Double} {whole : Int}
    (known : (float double).exactValue? = some (rationalValue value))
    (rounded : (roundWith rounding.rule (.float double)).Denotes whole)
    (small : whole.natAbs < exactDoubleBound) :
    ∃ word, roundWith rounding.rule (.float double) = .word word := by
  obtain rfl := rounded.unique (rounding.denotes_roundWith known)
  cases double with
  | notNumber _ _ => cases known
  | infinite _ => exact absurd known (exactValue?_ne_of_units? rfl value)
  | finite negative rank =>
      obtain rfl : doubleValue negative rank = value :=
        rationalValue_injective (Option.some.inj known)
      simp only [roundWith, rounding.rule_finite, if_pos small]
      refine exists_word_iff.mpr ⟨?_, ?_⟩ <;> unfold exactDoubleBound at small <;> omega

end Rounding

theorem roundWith_ofInt (rule : Double → Option Int) (whole : Int) :
    roundWith rule (ofInt whole) = ofInt whole := by
  unfold ofInt
  split <;> rfl

/-- **Rounding a second time changes nothing.** -/
theorem roundWith_roundWith (rule : Double → Option Int) (number : Number) :
    roundWith rule (roundWith rule number) = roundWith rule number := by
  cases number with
  | word _ => rfl
  | big _ => rfl
  | float double =>
      cases found : rule double with
      | none => simp [roundWith, found]
      | some whole =>
          by_cases small : whole.natAbs < exactDoubleBound
          · have rounded : roundWith rule (.float double) = ofInt whole := by
              simp [roundWith, found, small]
            rw [rounded, roundWith_ofInt]
          · have kept : roundWith rule (.float double) = .float double := by
              simp [roundWith, found, small]
            rw [kept, kept]

theorem exists_exactValue? {number : Number} (finite : number.isFinite = true) :
    ∃ value, number.exactValue? = some (rationalValue value) := by
  obtain ⟨units, known⟩ := exists_units? finite
  exact ⟨_, exactValue?_of_units? known⟩

/-- **Rounding gives the right integer.** For a finite number in any representation, the floor is
the greatest integer that is not above its exact value and the ceiling the least that is not below
it; truncation gives the one of these that is nearer to zero, and rounding the nearest integer,
halves away from zero. An integral number equals all of them, rounding twice is rounding once, and
a double is rounded to an integer of magnitude below `2 ^ 53` as a word. -/
theorem roundings_exact {number : Number} (finite : number.isFinite = true) :
    ∃ (value : ℚ) (below above inner near : Int),
      number.exactValue? = some (rationalValue value) ∧
      (number.floor.Denotes below ∧ IsGreatest {whole : Int | (whole : ℚ) ≤ value} below) ∧
      (number.ceil.Denotes above ∧ IsLeast {whole : Int | value ≤ (whole : ℚ)} above) ∧
      (number.trunc.Denotes inner ∧ (inner = below ∨ inner = above) ∧
        |inner| ≤ |below| ∧ |inner| ≤ |above|) ∧
      (number.round.Denotes near ∧ IsNearestInteger value near) ∧
      ∀ rounding ∈ [floor, ceil, trunc, round],
        (number.IsWhole → (rounding number).compare number = .eq) ∧
        rounding (rounding number) = rounding number ∧
        ∀ (double : Double) (whole : Int), number = .float double →
          (rounding number).Denotes whole → whole.natAbs < 2 ^ 53 →
            ∃ word, rounding number = .word word := by
  obtain ⟨value, known⟩ := exists_exactValue? finite
  have common : ∀ rounding : Rounding,
      (number.IsWhole → (roundWith rounding.rule number).compare number = .eq) ∧
      roundWith rounding.rule (roundWith rounding.rule number) = roundWith rounding.rule number ∧
      ∀ (double : Double) (whole : Int), number = .float double →
        (roundWith rounding.rule number).Denotes whole → whole.natAbs < 2 ^ 53 →
          ∃ word, roundWith rounding.rule number = .word word := by
    intro rounding
    refine ⟨rounding.compare_roundWith_eq known, roundWith_roundWith _ number, ?_⟩
    rintro double whole rfl rounded small
    exact rounding.exists_word_of_small known rounded small
  refine ⟨value, ⌊value⌋, ⌈value⌉, inwardInteger value, nearestInteger value, known,
    ⟨Rounding.down.denotes_roundWith known, isGreatest_floor value⟩,
    ⟨Rounding.up.denotes_roundWith known, isLeast_ceil value⟩,
    ⟨Rounding.inward.denotes_roundWith known, inwardInteger_nearer value⟩,
    ⟨Rounding.nearest.denotes_roundWith known, isNearestInteger_nearestInteger value⟩, ?_⟩
  intro rounding member
  simp only [List.mem_cons, List.not_mem_nil, or_false] at member
  rcases member with rfl | rfl | rfl | rfl
  · exact common .down
  · exact common .up
  · exact common .inward
  · exact common .nearest

/-- Minus two and a half is halfway between two integers; the largest double below `2 ^ 53` becomes
a word. -/
theorem roundings_exact_halfway :
    (∃ value, (float (.ofBits 0xC004000000000000)).exactValue? = some (rationalValue value) ∧
      IsGreatest {whole : Int | (whole : ℚ) ≤ value} (-3) ∧
      IsLeast {whole : Int | value ≤ (whole : ℚ)} (-2) ∧ IsNearestInteger value (-3)) ∧
    (float (.ofBits 0xC004000000000000)).trunc = ofInt (-2) ∧
    ∃ word, (float (.ofBits 0x433FFFFFFFFFFFFF)).floor = .word word := by
  have reads : ∀ {rounded : Number} {whole : Int}, rounded.toInt? = some whole →
      rounded.Denotes whole := toInt?_eq_some_iff.mp
  obtain ⟨value, below, above, _, near, known, ⟨down, greatest⟩, ⟨up, least⟩, _,
    ⟨round, nearest⟩, _⟩ :=
    @roundings_exact (float (.ofBits 0xC004000000000000)) (by decide +kernel)
  obtain ⟨_, _, _, _, _, _, _, _, _, _, common⟩ :=
    @roundings_exact (float (.ofBits 0x433FFFFFFFFFFFFF)) (by decide +kernel)
  obtain rfl : below = -3 := down.unique (reads (by decide +kernel))
  obtain rfl : above = -2 := up.unique (reads (by decide +kernel))
  obtain rfl : near = -3 := round.unique (reads (by decide +kernel))
  refine ⟨⟨value, known, greatest, least, nearest⟩, by decide +kernel, ?_⟩
  exact (common floor List.mem_cons_self).2.2 _ 9007199254740991 rfl
    (reads (by decide +kernel)) (by decide)

end Number

end Rego
