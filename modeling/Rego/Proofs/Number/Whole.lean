import Rego.Proofs.Number.Integers
import Rego.Proofs.Number.Order

/-!
# Numbers of integral value

An integer may be written in several ways, as a word, as a big integer or as a whole double, but a
number has at most one integral value. Numbers are equal if they have the same (`compare_of_toInt?`),
and equal numbers have the same or both none (`toInt?_congr`). In the second case they are written
alike, too: they are one double (`whole_or_same`).
-/

namespace Rego.Number

set_option autoImplicit false

open Double

theorem compare_of_toInt? {left right : Number} {whole : Int} (one : left.toInt? = some whole)
    (two : right.toInt? = some whole) : left.compare right = .eq := by
  unfold compare
  rw [one, two]
  exact Int.compare_eq_eq.mpr rfl

@[simp] theorem toInt?_ofInt (value : Int) : (ofInt value).toInt? = some value := by
  unfold ofInt
  split
  · rfl
  · next fits =>
      rw [Decidable.not_not] at fits
      rw [toInt?, Int64.toInt_ofInt_of_le fits.1 fits.2]

/-! ## Equal numbers -/

theorem place_of_units?_eq_none {number : Number} (infinite : number.units? = none) :
    number.place.1 ≠ 0 := by
  unfold place
  rw [infinite]
  cases number.orderKey.signBit with
  | false => exact Int.one_ne_zero
  | true => exact (by decide : (-1 : Int) ≠ 0)

/-- A number that equals one of integral value has this value. -/
theorem toInt?_of_compare_eq {left right : Number} {whole : Int}
    (same : left.compare right = .eq) (integral : left.toInt? = some whole) :
    right.toInt? = some whole := by
  rw [compare_eq_place, Ordering.then_eq_eq, Int.compare_eq_eq, Int.compare_eq_eq,
    place_of_units? (units?_of_toInt? integral)] at same
  obtain ⟨first, second⟩ := same
  have positive : (unitsPerOne : Int) ≠ 0 := by exact_mod_cast unitsPerOne_pos.ne'
  cases finite : right.units? with
  | none => exact absurd first.symm (place_of_units?_eq_none finite)
  | some units =>
      rw [place_of_units? finite] at second
      cases found : right.toInt? with
      | some other =>
          have units_eq := units?_of_toInt? found
          rw [finite] at units_eq
          rw [Option.some.inj units_eq] at second
          exact congrArg some (Int.eq_of_mul_eq_mul_right positive second).symm
      | none =>
          obtain ⟨negative, rank, _, fraction, value⟩ := exists_fraction finite found
          refine absurd ?_ fraction
          have divides : (unitsPerOne : Int) ∣ signed negative (unitsOfRank rank) := by
            rw [← value, ← show whole * unitsPerOne = units from second]
            exact Int.dvd_mul_left whole unitsPerOne
          refine Nat.mod_eq_zero_of_dvd (Int.natCast_dvd_natCast.mp ?_)
          unfold signed at divides
          split at divides
          · exact (Int.dvd_neg).mp divides
          · exact divides

/-- **Equal numbers have the same integral value, or both none.** -/
theorem toInt?_congr {left right : Number} (same : left.compare right = .eq) :
    left.toInt? = right.toInt? := by
  have back : right.compare left = .eq := Std.OrientedCmp.eq_symm same
  cases one : left.toInt? with
  | some whole => exact (toInt?_of_compare_eq same one).symm
  | none =>
      cases two : right.toInt? with
      | none => rfl
      | some whole => rw [toInt?_of_compare_eq back two] at one; cases one

/-- A number without integral value is a double. -/
theorem exists_float_of_toInt? {number : Number} (fractional : number.toInt? = none) :
    ∃ value, number = .float value := by
  cases number with
  | word value => cases fractional
  | big value => cases fractional
  | float value => exact ⟨value, rfl⟩

/-- **Equal numbers have one integral value, or else they are one double.** -/
theorem whole_or_same {left right : Number} (same : left.compare right = .eq) :
    (∃ whole, left.toInt? = some whole ∧ right.toInt? = some whole) ∨
      left.toInt? = none ∧ left = right := by
  have values := toInt?_congr same
  cases one : left.toInt? with
  | some whole => exact .inl ⟨whole, rfl, by rw [← values, one]⟩
  | none =>
      rw [one] at values
      obtain ⟨value, rfl⟩ := exists_float_of_toInt? one
      obtain ⟨other, rfl⟩ := exists_float_of_toInt? values.symm
      unfold compare at same
      rw [one, ← values] at same
      have keys : value = other := position_injective (Int.compare_eq_eq.mp same)
      exact .inr ⟨rfl, congrArg Number.float keys⟩

/-! ## Magnitudes -/

theorem natAbs_signed (negative : Bool) (magnitude : Nat) :
    (signed negative magnitude).natAbs = magnitude := by
  unfold signed
  split
  · rw [Int.natAbs_neg, Int.natAbs_natCast]
  · exact Int.natAbs_natCast magnitude

theorem toInt?_abs (number : Number) :
    number.abs.toInt? = number.toInt?.map fun whole => (whole.natAbs : Int) := by
  cases number with
  | word value =>
      rw [abs_word]
      exact toInt?_ofInt _
  | big value => exact toInt?_ofInt _
  | float value =>
      cases value with
      | notNumber negative payload => rfl
      | infinite negative => rfl
      | finite negative rank =>
          simp only [abs, Double.abs, toInt?, Double.toInt?]
          split
          · rw [Option.map_some, natAbs_signed]
            rfl
          · rfl

theorem toUnsigned?_abs_eq_some_iff {number : Number} {bound : Nat} :
    number.abs.toUnsigned? = some bound ↔
      ∃ whole, number.toInt? = some whole ∧ whole.natAbs = bound ∧ bound < 2 ^ 64 := by
  unfold toUnsigned?
  rw [toInt?_abs]
  cases number.toInt? with
  | none => simp
  | some whole =>
      simp only [Option.map_some, Option.some.injEq, exists_eq_left', Option.ite_none_right_eq_some]
      exact ⟨fun ⟨fits, same⟩ => ⟨same, same ▸ fits⟩, fun ⟨same, fits⟩ => ⟨same ▸ fits, same⟩⟩

end Rego.Number
