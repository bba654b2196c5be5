import Rego.Number.Arithmetic

/-!
# Integer arithmetic

Every integer is written in one way, as a word whenever it fits (`integer?_eq_some_iff`). Operations
on two words look at the exact result to see whether the words have wrapped around, and only then
leave the words. So they come to the same number as operations on big integers: the one of the exact
result (`Operation.apply_ofInt`, `abs_ofInt`).
-/

namespace Rego.Number

set_option autoImplicit false

open scoped Rego.Power

/-! ## Written forms of integers -/

theorem fitsWord_toInt (value : Int64) : FitsWord value.toInt := ⟨value.le_toInt, value.toInt_lt⟩

theorem ofInt_toInt (value : Int64) : ofInt value.toInt = .word value := by
  unfold ofInt
  rw [dif_neg (not_not_intro (fitsWord_toInt value)), Int64.ofInt_toInt]

/-- A word is the written form of the integer that it stands for. -/
theorem ofInt_of_toInt_eq {whole : Int} {value : Int64} (same : value.toInt = whole) :
    ofInt whole = .word value := by
  rw [← same, ofInt_toInt]

@[simp] theorem integer?_ofInt (whole : Int) : (ofInt whole).integer? = some whole := by
  unfold ofInt
  split
  · rfl
  · next fits =>
      rw [Decidable.not_not] at fits
      rw [integer?, Int64.toInt_ofInt_of_le fits.1 fits.2]

/-- **An integer has one written form.** -/
theorem integer?_eq_some_iff {number : Number} {whole : Int} :
    number.integer? = some whole ↔ number = ofInt whole := by
  constructor
  · intro read
    cases number with
    | word value =>
        cases read
        exact (ofInt_toInt value).symm
    | @big value outside =>
        cases read
        exact (dif_pos outside).symm
    | float value => cases read
  · rintro rfl
    exact integer?_ofInt whole

/-- The written form is a word exactly if the integer fits one. -/
theorem exists_word_iff {whole : Int} : (∃ value, ofInt whole = .word value) ↔ FitsWord whole := by
  constructor
  · rintro ⟨value, written⟩
    have read := integer?_ofInt whole
    rw [written] at read
    cases read
    exact fitsWord_toInt value
  · intro fits
    exact ⟨Int64.ofInt whole, dif_neg (not_not_intro fits)⟩

/-! ## Words -/

/-- Words that have not wrapped around hold the exact result. -/
theorem toInt_of_bmod {exact : Int} {wrapped : Int64} (fits : FitsWord exact)
    (wraps : wrapped.toInt = exact.bmod (2 ^ (64 : Nat))) : wrapped.toInt = exact := by
  obtain ⟨low, high⟩ := fits
  rw [wraps]
  exact Int.bmod_eq_of_le (by omega) (by omega)

theorem toInt_of_checked? {exact : Int} {wrapped result : Int64}
    (wraps : FitsWord exact → wrapped.toInt = exact)
    (found : checked? exact wrapped = some result) : result.toInt = exact := by
  unfold checked? at found
  split at found
  · next fits =>
      cases found
      exact wraps fits
  · cases found

namespace Operation

/-- A result on two words is the written form of the exact result. -/
theorem ofInt_of_onWords? (operation : Operation) {left right : Number} {first second : Int}
    {result : Int64} (one : left.integer? = some first) (two : right.integer? = some second)
    (found : operation.onWords? left right = some result) :
    ofInt (operation.exact first second) = .word result := by
  cases left with
  | word value =>
      cases right with
      | word value' =>
          cases one
          cases two
          refine ofInt_of_toInt_eq (toInt_of_checked? (fun fits => ?_) found)
          exact toInt_of_bmod fits (operation.wraps value value')
      | big value' => cases found
      | float value' => cases two
  | big value => cases found
  | float value => cases one

/-- **Operations on integers never round**, whether words or big integers take part. -/
theorem apply_of_integer? (operation : Operation) {left right : Number} {first second : Int}
    (one : left.integer? = some first) (two : right.integer? = some second) :
    operation.apply left right = .ok (ofInt (operation.exact first second)) := by
  unfold apply
  rw [one, two]
  refine congrArg Except.ok ?_
  cases found : operation.onWords? left right with
  | some result => exact (operation.ofInt_of_onWords? one two found).symm
  | none => rw [Option.elim_none]

@[simp] theorem apply_ofInt (operation : Operation) (first second : Int) :
    operation.apply (ofInt first) (ofInt second) = .ok (ofInt (operation.exact first second)) :=
  operation.apply_of_integer? (integer?_ofInt first) (integer?_ofInt second)

end Operation

/-! ## Magnitudes -/

theorem toInt_abs {value : Int64} (fits : FitsWord value.toInt.natAbs) :
    value.abs.toInt = value.toInt.natAbs := by
  have other : value.toBitVec ≠ BitVec.intMin 64 := by
    intro least
    have same : value.toInt = -2 ^ 63 := by
      rw [show value = Int64.minValue from Int64.toBitVec_inj.mp least, Int64.toInt_minValue]
    unfold FitsWord at fits
    omega
  rw [← Int64.toInt_toBitVec, Int64.toBitVec_abs, BitVec.toInt_abs_eq_natAbs_of_ne_intMin other,
    Int64.toInt_toBitVec]

/-- The magnitude of a word is exact; that of the least one is no word any more. -/
theorem abs_word (value : Int64) : (word value).abs = ofInt value.toInt.natAbs := by
  rw [abs]
  cases found : checked? value.toInt.natAbs value.abs with
  | some result => exact (ofInt_of_toInt_eq (toInt_of_checked? toInt_abs found)).symm
  | none => rw [Option.elim_none]

@[simp] theorem abs_ofInt (whole : Int) : (ofInt whole).abs = ofInt whole.natAbs := by
  have read := integer?_ofInt whole
  cases written : ofInt whole with
  | word value =>
      rw [written] at read
      cases read
      exact abs_word value
  | big value =>
      rw [written] at read
      cases read
      rfl
  | float value =>
      rw [written] at read
      cases read

end Rego.Number
