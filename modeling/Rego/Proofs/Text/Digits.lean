import Rego.Number.Power
import Rego.Text.Radix
import Mathlib.Tactic.Ring
import Mathlib.Tactic.SplitIfs

/-!
# Decimal digits

The digits of a natural number are decimal digit characters, spell the number, and do not start with
a zero unless they are a lone one. Their count is the power of ten that the number stays below. How
the last digit comes off (`digits_of_le`) is the same in every radix.
-/

namespace Rego.Radix

set_option autoImplicit false

/-! ## Digits one by one -/

theorem toNat_of_digit {character : Char} (digit : isDecimalDigit character = true) :
    48 ≤ character.toNat ∧ character.toNat < 58 := by
  unfold isDecimalDigit at digit
  simpa using digit

theorem digitsOnto_eq (radix number : Nat) (tail : List Char) :
    digitsOnto radix number tail = digits radix number ++ tail := by
  unfold digits
  induction number using Nat.strongRecOn generalizing tail with
  | ind number ih =>
      rw [digitsOnto, digitsOnto.eq_def radix number []]
      by_cases last : number < radix ∨ radix < 2
      · rw [if_pos last, if_pos last]
        rfl
      · have smaller : number / radix < number := Nat.div_lt_self (by omega) (by omega)
        rw [if_neg last, if_neg last, ih _ smaller, ih _ smaller [digitChar (number % radix)],
          List.append_assoc]
        rfl

theorem digits_of_lt {radix number : Nat} (small : number < radix) :
    digits radix number = [digitChar number] := by
  unfold digits
  rw [digitsOnto, if_pos (.inl small)]

theorem digits_of_le {radix number : Nat} (base : 1 < radix) (large : radix ≤ number) :
    digits radix number = digits radix (number / radix) ++ [digitChar (number % radix)] := by
  rw [← digitsOnto_eq]
  conv => lhs; unfold digits
  rw [digitsOnto.eq_def radix number, if_neg (by omega)]

theorem digits_ne_nil (number : Nat) : digits 10 number ≠ [] := by
  rcases Nat.lt_or_ge number 10 with small | large
  · rw [digits_of_lt small]
    exact List.cons_ne_nil _ _
  · rw [digits_of_le (by decide) large]
    exact List.append_ne_nil_of_right_ne_nil _ (List.cons_ne_nil _ _)

/-- The last digit of a number is its remainder. -/
theorem exists_digits_eq (number : Nat) :
    ∃ front, digits 10 number = front ++ [digitChar (number % 10)] := by
  rcases Nat.lt_or_ge number 10 with small | large
  · exact ⟨[], by rw [digits_of_lt small, Nat.mod_eq_of_lt small]; rfl⟩
  · exact ⟨_, digits_of_le (by decide) large⟩

theorem digitChar_ne_zero : ∀ digit < 10, digit ≠ 0 → (digitChar digit == '0') = false := by
  decide

theorem isDecimalDigit_digitChar : ∀ digit < 10, isDecimalDigit (digitChar digit) = true := by
  decide

theorem toNat_digitChar : ∀ digit < 10, (digitChar digit).toNat - 48 = digit := by decide

/-- The digits of a number are decimal digits. -/
theorem isDecimalDigit_of_mem_digits (number : Nat) :
    ∀ character ∈ digits 10 number, isDecimalDigit character = true := by
  induction number using Nat.strongRecOn with
  | ind number ih =>
      rcases Nat.lt_or_ge number 10 with small | large
      · rw [digits_of_lt small]
        exact List.forall_mem_singleton.mpr (isDecimalDigit_digitChar number small)
      · rw [digits_of_le (by decide) large]
        exact List.forall_mem_append.mpr ⟨ih _ (by omega),
          List.forall_mem_singleton.mpr (isDecimalDigit_digitChar _ (Nat.mod_lt _ (by decide)))⟩

/-- Only zero has a leading zero. -/
theorem eq_zero_of_head?_digits {number : Nat} (leading : (digits 10 number).head? = some '0') :
    number = 0 := by
  induction number using Nat.strongRecOn with
  | ind number ih =>
      rcases Nat.lt_or_ge number 10 with small | large
      · rw [digits_of_lt small, List.head?_cons, Option.some.injEq] at leading
        rw [← toNat_digitChar number small, leading]
        rfl
      · obtain ⟨first, rest, same⟩ := List.exists_cons_of_ne_nil (digits_ne_nil (number / 10))
        rw [digits_of_le (by decide) large, same] at leading
        have := ih (number / 10) (by omega) (by rw [same]; exact leading)
        omega

/-! ## Values -/

theorem decimalValueFrom_cons (leading : Nat) (character : Char) (rest : List Char) :
    decimalValueFrom leading (character :: rest) =
      decimalValueFrom (leading * 10 + (character.toNat - 48)) rest := by
  conv => lhs; unfold decimalValueFrom

theorem decimalValueFrom_append (leading : Nat) (front back : List Char) :
    decimalValueFrom leading (front ++ back) =
      decimalValueFrom (decimalValueFrom leading front) back := by
  induction front generalizing leading with
  | nil => rfl
  | cons character front ih =>
      rw [List.cons_append, decimalValueFrom_cons, decimalValueFrom_cons leading, ih]

theorem decimalValue_cons (character : Char) (rest : List Char) :
    decimalValue (character :: rest) = decimalValueFrom (character.toNat - 48) rest := by
  unfold decimalValue
  rw [decimalValueFrom_cons, Nat.zero_mul, Nat.zero_add]

/-- A leading part is worth a power of ten more for each digit that follows. -/
theorem decimalValueFrom_eq (leading : Nat) (characters : List Char) :
    decimalValueFrom leading characters =
      leading * 10 ^ characters.length + decimalValue characters := by
  induction characters generalizing leading with
  | nil => rw [List.length_nil, Nat.pow_zero, Nat.mul_one]; rfl
  | cons character rest ih =>
      rw [decimalValue_cons, decimalValueFrom_cons, ih, ih (character.toNat - 48), List.length_cons,
        Nat.pow_succ]
      ring

theorem decimalValue_append (front back : List Char) :
    decimalValue (front ++ back) =
      decimalValue front * 10 ^ back.length + decimalValue back := by
  rw [← decimalValueFrom_eq]
  exact decimalValueFrom_append 0 front back

/-- **The digits of a number spell it.** -/
@[simp] theorem decimalValue_digits (number : Nat) : decimalValue (digits 10 number) = number := by
  induction number using Nat.strongRecOn with
  | ind number ih =>
      rcases Nat.lt_or_ge number 10 with small | large
      · rw [digits_of_lt small]
        unfold decimalValue decimalValueFrom decimalValueFrom
        have := toNat_digitChar number small
        omega
      · have last := toNat_digitChar (number % 10) (Nat.mod_lt _ (by decide))
        rw [digits_of_le (by decide) large, decimalValue_append, ih _ (by omega)]
        unfold decimalValue decimalValueFrom decimalValueFrom
        simp only [List.length_singleton, Nat.pow_one]
        omega

@[simp] theorem decimalValue_zeros (count : Nat) : decimalValue (List.replicate count '0') = 0 := by
  induction count with
  | zero => rfl
  | succ count ih => rw [List.replicate_succ]; exact ih

/-! ## How many digits -/

/-- A number with a given count of digits stays below that power of ten. -/
theorem lt_pow_length_digits (number : Nat) : number < 10 ^ (digits 10 number).length := by
  induction number using Nat.strongRecOn with
  | ind number ih =>
      rcases Nat.lt_or_ge number 10 with small | large
      · rw [digits_of_lt small]
        exact small
      · have part := ih (number / 10) (by omega)
        rw [digits_of_le (by decide) large, List.length_append, List.length_singleton, Nat.pow_succ]
        omega

/-- A positive number reaches the power of ten of its leading digit. -/
theorem pow_length_digits_le {number : Nat} (positive : 0 < number) :
    10 ^ ((digits 10 number).length - 1) ≤ number := by
  induction number using Nat.strongRecOn with
  | ind number ih =>
      rcases Nat.lt_or_ge number 10 with small | large
      · rw [digits_of_lt small]
        exact positive
      · have part := ih (number / 10) (by omega) (by omega)
        have more : 0 < (digits 10 (number / 10)).length :=
          List.length_pos_iff.mpr (digits_ne_nil _)
        rw [digits_of_le (by decide) large, List.length_append, List.length_singleton,
          Nat.add_sub_cancel]
        rw [show (digits 10 (number / 10)).length = (digits 10 (number / 10)).length - 1 + 1 by
          omega, Nat.pow_succ]
        omega

/-- A number below a power of ten has no more digits than that. -/
theorem length_digits_le {number places : Nat} (positive : 0 < places)
    (small : number < 10 ^ places) : (digits 10 number).length ≤ places := by
  rcases Nat.eq_zero_or_pos number with rfl | some
  · rw [digits_of_lt (by decide)]
    exact positive
  · have least := pow_length_digits_le some
    have := (Nat.pow_lt_pow_iff_right (show 1 < 10 by decide)).mp (Nat.lt_of_le_of_lt least small)
    omega

end Rego.Radix
