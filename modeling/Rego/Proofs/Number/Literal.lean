import Rego.Proofs.Double.Closest
import Rego.Proofs.Number.Grammar
import Rego.Proofs.Number.Integers

/-!
# What number literals denote

The digits of a literal, its point and its exponent give a rational (`magnitude`). The reader drops
the trailing zeros of the fraction and scales the remaining digits by a power of ten, which comes to
the same value (`significand_mul_pow_shift`). Where the power is not negative and adds at most a
thousand zeros, the number is the integer of this value, and otherwise it is the nearest double
(`reads_literals`). The power is counted in a machine word, though: where the exponent is close to
the least word and the fraction leads below it, a literal has a value but is not read.
-/

namespace Rego

set_option autoImplicit false

namespace NumberLiteral

variable (literal : NumberLiteral)

/-! ## Values -/

/-- The value that is written, up to the sign. -/
def magnitude : ℚ :=
  (Radix.decimalValue literal.whole +
    Radix.decimalValue literal.fraction / 10 ^ literal.fraction.length) * 10 ^ literal.exponent

/-- The value that is written. -/
def writtenValue : ℚ := if literal.negative then -literal.magnitude else literal.magnitude

/-- A fraction is its significant digits and zeros. -/
theorem exists_fraction_eq :
    ∃ zeros, literal.fraction = literal.shortFraction ++ List.replicate zeros '0' := by
  obtain ⟨dropped, zero, same⟩ := Text.exists_dropEndWhile (· == '0') literal.fraction
  have repeated : dropped = List.replicate dropped.length '0' :=
    List.eq_replicate_of_mem fun character member => beq_iff_eq.mp (zero character member)
  rw [repeated] at same
  exact ⟨dropped.length, same⟩

/-- **The significant digits, scaled, are the value that is written.** -/
theorem significand_mul_pow_shift :
    (literal.significand : ℚ) * 10 ^ literal.shift = literal.magnitude := by
  obtain ⟨zeros, same⟩ := literal.exists_fraction_eq
  have ten : (10 : ℚ) ≠ 0 := by norm_num
  have places : (Radix.decimalValue literal.fraction : ℚ) / 10 ^ literal.fraction.length =
      Radix.decimalValue literal.shortFraction / 10 ^ literal.shortFraction.length := by
    rw [same, Radix.decimalValue_append, Radix.decimalValue_zeros, List.length_append,
      List.length_replicate, pow_add, Nat.add_zero]
    push_cast
    exact mul_div_mul_right _ _ (pow_ne_zero zeros ten)
  have digits : (literal.significand : ℚ) =
      (Radix.decimalValue literal.whole +
        Radix.decimalValue literal.shortFraction / 10 ^ literal.shortFraction.length) *
          10 ^ literal.shortFraction.length := by
    unfold significand
    rw [Radix.decimalValue_append, add_mul, div_mul_cancel₀ _ (pow_ne_zero _ ten)]
    push_cast
    rfl
  rw [digits, magnitude, places, shift, zpow_sub₀ ten, zpow_natCast, mul_assoc,
    mul_div_cancel₀ _ (pow_ne_zero _ ten)]

/-- A power that only adds zeros gives an integer. -/
theorem value_of_scaled (least : 0 ≤ literal.shift) (most : literal.shift ≤ 1000) :
    ∃ whole, literal.value = Number.ofInt whole ∧ (whole : ℚ) = literal.writtenValue := by
  refine ⟨_, if_pos ⟨least, most⟩, ?_⟩
  have scaled :
      ((literal.significand * 10 ^ literal.shift.toNat : Nat) : ℚ) = literal.magnitude := by
    rw [← significand_mul_pow_shift, ← Int.toNat_of_nonneg least, zpow_natCast, Int.toNat_natCast]
    push_cast
    rfl
  unfold Double.signed writtenValue
  rw [← scaled]
  split <;> push_cast <;> rfl

/-- Any other power gives the nearest double. -/
theorem value_of_unscaled (outside : ¬(0 ≤ literal.shift ∧ literal.shift ≤ 1000)) :
    ∃ value, literal.value = .float value ∧ value.IsNearest literal.negative literal.magnitude := by
  refine ⟨_, if_neg outside, ?_⟩
  rw [← significand_mul_pow_shift]
  exact Double.isNearest_ofDecimal literal.negative literal.significand literal.shift

end NumberLiteral

namespace Number

open NumberLiteral

variable {text : String} {literal : NumberLiteral}

theorem ofText_of_written (written : Written text.toList literal) :
    ofText text = if FitsWord literal.shift then .ok literal.value else .error .shiftOverflow := by
  unfold ofText
  rw [read?_eq_some_iff.mpr written]

theorem ofText_eq_malformed_iff :
    ofText text = .error .malformed ↔ ∀ literal, ¬Written text.toList literal := by
  constructor
  · intro malformed literal written
    rw [ofText_of_written written] at malformed
    split at malformed <;> cases malformed
  · intro unwritten
    have none : read? text.toList = none :=
      Option.eq_none_iff_forall_ne_some.mpr fun literal read =>
        unwritten literal (read?_eq_some_iff.mp read)
    unfold ofText
    rw [none]

theorem exists_ofText_iff : (∃ number, ofText text = .ok number) ↔
    ∃ literal, Written text.toList literal ∧ FitsWord literal.shift := by
  constructor
  · rintro ⟨number, read⟩
    by_contra unread
    have refused : ofText text ≠ .error .malformed := by
      rw [read]
      exact nofun
    obtain ⟨literal, written⟩ := not_forall_not.mp (mt ofText_eq_malformed_iff.mpr refused)
    rw [ofText_of_written written, if_neg fun fits => unread ⟨literal, written, fits⟩] at read
    cases read
  · rintro ⟨literal, written, fits⟩
    exact ⟨literal.value, by rw [ofText_of_written written, if_pos fits]⟩

/-- **Literals are read as what is written.** A text that is no literal is refused. A literal whose
shift is from zero to a thousand is read as exactly the integer that is written, and one with any
other shift as the nearest double, unless the shift is no machine word. -/
theorem reads_literals (text : String) :
    (ofText text = .error .malformed ↔ ∀ literal, ¬Written text.toList literal) ∧
    ((∃ number, ofText text = .ok number) ↔
      ∃ literal, Written text.toList literal ∧ FitsWord literal.shift) ∧
    ∀ literal, Written text.toList literal →
      (ofText text = .error .shiftOverflow ↔ ¬FitsWord literal.shift) ∧
      (0 ≤ literal.shift → literal.shift ≤ 1000 →
        ∃ whole, ofText text = .ok (ofInt whole) ∧ (whole : ℚ) = literal.writtenValue) ∧
      (FitsWord literal.shift → ¬(0 ≤ literal.shift ∧ literal.shift ≤ 1000) →
        ∃ value, ofText text = .ok (.float value) ∧
          value.IsNearest literal.negative literal.magnitude) := by
  refine ⟨ofText_eq_malformed_iff, exists_ofText_iff, ?_⟩
  intro literal written
  have read := ofText_of_written written
  refine ⟨?_, ?_, ?_⟩
  · rw [read]
    split <;> simp [*]
  · intro least most
    obtain ⟨whole, same, value⟩ := literal.value_of_scaled least most
    rw [if_pos (show FitsWord literal.shift from ⟨by omega, by omega⟩), same] at read
    exact ⟨whole, read, value⟩
  · intro fits outside
    obtain ⟨value, same, nearest⟩ := literal.value_of_unscaled outside
    rw [if_pos fits, same] at read
    exact ⟨value, read, nearest⟩

/-- A sign, blanks, a zero at the end of the fraction and an exponent; a point without digits in
front of it. -/
theorem reads_literals_samples :
    ofText "\u00a0+12.50e3 " = .ok (ofInt 12500) ∧
    ∃ value, ofText "-.5" = .ok (.float value) ∧ value.IsNearest true (1 / 2) := by
  have scaled : Written "\u00a0+12.50e3 ".toList ⟨false, ['1', '2'], ['5', '0'], 3⟩ :=
    read?_eq_some_iff.mp (by decide)
  have unscaled : Written "-.5".toList ⟨true, [], ['5'], 0⟩ := read?_eq_some_iff.mp (by decide)
  obtain ⟨_, _, both⟩ := reads_literals "\u00a0+12.50e3 "
  obtain ⟨_, _, both'⟩ := reads_literals "-.5"
  constructor
  · obtain ⟨whole, read, value⟩ := (both _ scaled).2.1 (by decide) (by decide)
    have twelve : Radix.decimalValue ['1', '2'] = 12 := rfl
    have fifty : Radix.decimalValue ['5', '0'] = 50 := rfl
    have same : (whole : ℚ) = (12500 : Int) := by
      rw [value]
      norm_num [writtenValue, magnitude, twelve, fifty]
    rw [← Int.cast_inj.mp same]
    exact read
  · obtain ⟨value, read, nearest⟩ := (both' _ unscaled).2.2 (by decide) (by decide)
    have five : Radix.decimalValue ['5'] = 5 := rfl
    have none : Radix.decimalValue [] = 0 := rfl
    have half : magnitude ⟨true, [], ['5'], 0⟩ = 1 / 2 := by norm_num [magnitude, five, none]
    rw [half] at nearest
    exact ⟨value, read, nearest⟩

/-- A literal whose shift is no machine word is not read. -/
theorem not_all_literals_read :
    ¬∀ text : String, (∃ number, ofText text = .ok number) ↔
      ∃ literal, Written text.toList literal := by
  intro all
  have written : Written "0.1e-9223372036854775808".toList ⟨false, ['0'], ['1'], -(2 ^ 63)⟩ :=
    read?_eq_some_iff.mp (by decide)
  obtain ⟨number, read⟩ := (all "0.1e-9223372036854775808").mpr ⟨_, written⟩
  rw [ofText_of_written written, if_neg (by decide)] at read
  cases read

end Number

end Rego
