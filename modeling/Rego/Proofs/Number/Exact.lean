import Mathlib.Algebra.Order.Field.Rat
import Mathlib.Data.Int.ConditionallyCompleteOrder
import Mathlib.Order.Compare
import Mathlib.Order.WithBot
import Rego.Proofs.Number.Whole

/-!
# Exact values of numbers

Every number that is no NaN has an exact value: an integer stands for itself, a finite double for
its dyadic rational, and the infinities stand on either side of all rationals (`exactValue?`).
Rounding an integer to a double changes its value, and the largest finite double stands in for every
big integer when doubles are compared, so the comparison of numbers goes through keys that do not
have the values of their numbers. It is the comparison of exact values all the same
(`compare_eq_cmp_exact`). The integer that is read off a number is its exact value, too
(`toInt?_eq_some_iff`).
-/

namespace Rego.Number

set_option autoImplicit false

open Double

/-- Neither a number nor an infinity. -/
def isNaN : Number → Bool
  | .float (.notNumber _ _) => true
  | _ => false

/-- A rational among the values that numbers can have. -/
def rationalValue (value : ℚ) : WithBot (WithTop ℚ) := ((value : WithTop ℚ) : WithBot (WithTop ℚ))

theorem rationalValue_injective : Function.Injective rationalValue := fun _ _ same =>
  WithTop.coe_inj.mp (WithBot.coe_inj.mp same)

/-- The exact value of a number; none for a NaN. -/
def exactValue? : Number → Option (WithBot (WithTop ℚ))
  | .word value => some (rationalValue value.toInt)
  | .big value => some (rationalValue value)
  | .float (.finite negative rank) =>
    some (rationalValue ((signed negative (unitsOfRank rank) : ℚ) / unitsPerOne))
  | .float (.infinite true) => some ⊥
  | .float (.infinite false) => some ⊤
  | .float (.notNumber _ _) => none

/-! ## Finite numbers -/

/-- The value of a number of units. -/
def valueOfUnits (units : Int) : WithBot (WithTop ℚ) := rationalValue ((units : ℚ) / unitsPerOne)

theorem unitsPerOne_cast_pos : (0 : ℚ) < unitsPerOne := Nat.cast_pos.mpr unitsPerOne_pos

theorem strictMono_valueOfUnits : StrictMono valueOfUnits := by
  intro left right less
  have quotients : (left : ℚ) / unitsPerOne < (right : ℚ) / unitsPerOne :=
    div_lt_div_of_pos_right (Int.cast_lt.mpr less) unitsPerOne_cast_pos
  exact WithBot.coe_lt_coe.mpr (WithTop.coe_lt_coe.mpr quotients)

theorem valueOfUnits_whole (whole : Int) :
    valueOfUnits (whole * unitsPerOne) = rationalValue whole := by
  unfold valueOfUnits
  push_cast
  rw [mul_div_cancel_right₀ _ unitsPerOne_cast_pos.ne']

/-- A finite number has the value of its units. -/
theorem exactValue?_of_units? {number : Number} {units : Int} (finite : number.units? = some units) :
    number.exactValue? = some (valueOfUnits units) := by
  cases number with
  | word value =>
      cases finite
      rw [valueOfUnits_whole]
      rfl
  | big value =>
      cases finite
      rw [valueOfUnits_whole]
      rfl
  | float value =>
      cases value with
      | notNumber _ _ => cases finite
      | infinite _ => cases finite
      | finite negative rank => cases finite; rfl

/-- A number without units that is no NaN is an infinity. -/
theorem exists_infinite {number : Number} (infinite : number.units? = none)
    (known : number.isNaN = false) : ∃ negative, number = .float (.infinite negative) := by
  cases number with
  | word value => cases infinite
  | big value => cases infinite
  | float value =>
      cases value with
      | notNumber _ _ => cases known
      | infinite negative => exact ⟨negative, rfl⟩
      | finite negative rank => cases infinite

/-! ## Integral values -/

/-- A number has an integral value, in whatever representation. -/
def Denotes (number : Number) (whole : Int) : Prop :=
  number.exactValue? = some (rationalValue whole)

/-- A number is an integer by its value. -/
def IsWhole (number : Number) : Prop := ∃ whole, number.Denotes whole

/-- The value of an infinity is no rational. -/
theorem exactValue?_ne_of_units? {number : Number} (infinite : number.units? = none) (value : ℚ) :
    number.exactValue? ≠ some (rationalValue value) := by
  cases number with
  | word value => cases infinite
  | big value => cases infinite
  | float value =>
      cases value with
      | notNumber _ _ => exact nofun
      | infinite negative =>
          cases negative with
          | true => exact fun same => WithBot.bot_ne_coe (Option.some.inj same)
          | false =>
              exact fun same => WithTop.top_ne_coe (WithBot.coe_inj.mp (Option.some.inj same))
      | finite negative rank => cases infinite

/-- **The integer that is read off a number is its exact value.** -/
theorem toInt?_eq_some_iff {number : Number} {whole : Int} :
    number.toInt? = some whole ↔ number.Denotes whole := by
  constructor
  · intro integral
    rw [Denotes, exactValue?_of_units? (units?_of_toInt? integral), valueOfUnits_whole]
  · intro denotes
    cases finite : number.units? with
    | none => exact absurd denotes (exactValue?_ne_of_units? finite whole)
    | some units =>
        rw [Denotes, exactValue?_of_units? finite, ← valueOfUnits_whole, Option.some.injEq,
          strictMono_valueOfUnits.injective.eq_iff] at denotes
        have same : (ofInt whole).compare number = .eq := by
          rw [compare_of_units? (units?_of_toInt? (toInt?_ofInt whole)) finite, denotes,
            Int.compare_eq_eq]
        exact toInt?_of_compare_eq same (toInt?_ofInt whole)

/-- A number is read as a word exactly if its value is an integer that fits one. -/
theorem toSigned?_eq_some_iff {number : Number} {whole : Int} :
    number.toSigned? = some whole ↔ number.Denotes whole ∧ FitsWord whole := by
  rw [← toInt?_eq_some_iff]
  cases number with
  | word value =>
      refine ⟨fun read => ?_, And.left⟩
      cases read
      exact ⟨rfl, fitsWord_toInt value⟩
  | @big value outside =>
      refine ⟨nofun, fun ⟨read, fits⟩ => ?_⟩
      cases read
      exact absurd fits outside
  | float value =>
      rw [toSigned?, Option.filter_eq_some_iff, decide_eq_true_iff]
      rfl

/-- A number is read as a position if its value is a natural number that fits an unsigned word. -/
theorem toUnsigned?_eq_some_iff {number : Number} {position : Nat} :
    number.toUnsigned? = some position ↔ number.Denotes position ∧ position < 2 ^ 64 := by
  rw [← toInt?_eq_some_iff, toUnsigned?]
  split
  · next value read =>
      rw [read, Option.ite_none_right_eq_some, Option.some.injEq, Option.some.injEq,
        Int.ofNat_eq_natCast, Int.natCast_inj]
      constructor
      · rintro ⟨fits, rfl⟩
        exact ⟨rfl, fits⟩
      · rintro ⟨rfl, fits⟩
        exact ⟨fits, rfl⟩
  · next other =>
      refine iff_of_false nofun ?_
      rintro ⟨read, _⟩
      exact other position read

theorem denotes_ofInt (whole : Int) : (ofInt whole).Denotes whole :=
  toInt?_eq_some_iff.mp (toInt?_ofInt whole)

theorem Denotes.unique {number : Number} {whole other : Int} (one : number.Denotes whole)
    (two : number.Denotes other) : whole = other := by
  rw [← toInt?_eq_some_iff] at one two
  exact Option.some.inj (one.symm.trans two)

theorem isWhole_iff {number : Number} : number.IsWhole ↔ ∃ whole, number.toInt? = some whole := by
  simp only [IsWhole, toInt?_eq_some_iff]

theorem not_isWhole_iff {number : Number} : ¬number.IsWhole ↔ number.toInt? = none := by
  rw [isWhole_iff, ← Option.isSome_iff_exists, Option.not_isSome_iff_eq_none]

/-! ## Comparing values -/

theorem cmp_valueOfUnits (left right : Int) :
    cmp (valueOfUnits left) (valueOfUnits right) = Ord.compare left right := by
  rw [strictMono_valueOfUnits.cmp_map_eq, cmp_eq_compare]

theorem bot_lt_valueOfUnits (units : Int) : ⊥ < valueOfUnits units := WithBot.bot_lt_coe _

theorem valueOfUnits_lt_top (units : Int) : valueOfUnits units < ⊤ :=
  WithBot.coe_lt_coe.mpr (WithTop.coe_lt_top _)

/-- The infinities are beyond all finite numbers. -/
theorem compare_infinite {number : Number} {units : Int} (finite : number.units? = some units)
    (negative : Bool) :
    number.compare (.float (.infinite negative)) = if negative then .gt else .lt := by
  rw [compare_of_infinite (.inr rfl), compare_keys_of_infinite finite rfl]
  cases negative <;> rfl

/-- Comparing a finite number with an infinity compares their values. -/
theorem compare_infinite_eq_cmp {number : Number} {units : Int}
    (finite : number.units? = some units) (negative : Bool) :
    ∃ value, exactValue? (.float (.infinite negative)) = some value ∧
      number.compare (.float (.infinite negative)) = cmp (valueOfUnits units) value := by
  rw [compare_infinite finite]
  cases negative with
  | true => exact ⟨⊥, rfl, ((cmp_eq_gt_iff _ _).mpr (bot_lt_valueOfUnits units)).symm⟩
  | false => exact ⟨⊤, rfl, ((cmp_eq_lt_iff _ _).mpr (valueOfUnits_lt_top units)).symm⟩

/-- **Numbers compare like their exact values.** In particular, equal numbers have the same integral
value or both none, so neither two integers nor an integer and a fraction become equal through
rounding. -/
theorem compare_eq_cmp_exact {left right : Number} (known : left.isNaN = false)
    (known' : right.isNaN = false) :
    ∃ value value', left.exactValue? = some value ∧ right.exactValue? = some value' ∧
      left.compare right = cmp value value' ∧
      (left.compare right = .eq → left.toInt? = right.toInt?) := by
  suffices ∃ value value', left.exactValue? = some value ∧ right.exactValue? = some value' ∧
      left.compare right = cmp value value' by
    obtain ⟨value, value', one, two, same⟩ := this
    exact ⟨value, value', one, two, same, toInt?_congr⟩
  cases one : left.units? with
  | some units =>
      cases two : right.units? with
      | some units' =>
          refine ⟨_, _, exactValue?_of_units? one, exactValue?_of_units? two, ?_⟩
          rw [compare_of_units? one two, cmp_valueOfUnits]
      | none =>
          obtain ⟨negative, rfl⟩ := exists_infinite two known'
          obtain ⟨value, found, same⟩ := compare_infinite_eq_cmp one negative
          exact ⟨_, value, exactValue?_of_units? one, found, same⟩
  | none =>
      obtain ⟨negative, rfl⟩ := exists_infinite one known
      cases two : right.units? with
      | some units' =>
          obtain ⟨value, found, same⟩ := compare_infinite_eq_cmp two negative
          refine ⟨value, _, found, exactValue?_of_units? two, ?_⟩
          rw [@Std.OrientedCmp.eq_swap _ Number.compare, same, cmp_swap]
      | none =>
          obtain ⟨negative', rfl⟩ := exists_infinite two known'
          cases negative <;> cases negative' <;> exact ⟨_, _, rfl, rfl, rfl⟩

/-- The double nearest to `2 ^ 53 + 1` is `2 ^ 53`, and the one nearest to a power of two beyond the
largest double is the infinity, but numbers are told apart from what they round to. -/
theorem compare_eq_cmp_exact_rounded :
    ((ofInt (2 ^ 53 + 1)).isNaN = false ∧
      Double.ofInt (2 ^ 53 + 1) = .ofBits 0x4340000000000000 ∧
      (ofInt (2 ^ 53 + 1)).compare (.float (.ofBits 0x4340000000000000)) = .gt) ∧
    (ofInt ((2 ^ 256) ^ 5)).isNaN = false ∧
      Double.ofInt ((2 ^ 256) ^ 5) = .infinite false ∧
      (ofInt ((2 ^ 256) ^ 5)).compare (.float (.infinite false)) = .lt := by
  refine ⟨⟨rfl, by decide +kernel, ?_⟩, rfl, by decide +kernel, ?_⟩
  · obtain ⟨value, value', one, two, same, _⟩ :=
      @compare_eq_cmp_exact (ofInt (2 ^ 53 + 1)) (.float (.ofBits 0x4340000000000000)) rfl rfl
    cases one
    cases two
    rw [same]
    decide +kernel
  · obtain ⟨value, value', one, two, same, _⟩ :=
      @compare_eq_cmp_exact (ofInt ((2 ^ 256) ^ 5)) (.float (.infinite false)) rfl rfl
    cases one
    cases two
    rw [same]
    decide +kernel

end Rego.Number
