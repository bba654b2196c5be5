import Rego.Number.Text
import Rego.Proofs.Double.Shortest
import Rego.Proofs.Number.Numeral
import Rego.Proofs.Number.Whole

/-!
# Texts of numbers read back

The interchange text of a finite number is a numeral, and the literal of that numeral has the same
value (`exists_numeral`): a whole number is written with all its digits, however large, and a
fraction with digits that round to it.
-/

namespace Rego

set_option autoImplicit false

/-- The number that a numeral denotes. -/
def Numeral.value (numeral : Numeral) : Number :=
  NumberLiteral.value ⟨numeral.negative, numeral.whole, numeral.places, 0⟩

/-- A numeral is read as the number that it denotes, if its places fit into memory. -/
theorem Number.ofText?_numeral {numeral : Numeral} (short : numeral.places.length < 2 ^ 63) :
    Number.ofText? (String.ofList numeral.text) = some numeral.value := by
  have fits := @NumberLiteral.fitsWord_shift
    ⟨numeral.negative, numeral.whole, numeral.places, 0⟩ short rfl
  rw [Number.ofText?, Number.ofText, String.toList_ofList, numeral.read?_text]
  dsimp only
  rw [if_pos fits]
  rfl

/-! ## Whole numbers -/

/-- The numeral of an integer. -/
def Numeral.ofInt (value : Int) : Numeral where
  negative := decide (value < 0)
  whole := Radix.digits 10 value.natAbs
  places := []
  inhabited := Radix.digits_ne_nil _
  whole_digits := Radix.isDecimalDigit_of_mem_digits _
  places_digits := nofun
  leading := by
    intro leading
    rw [Radix.eq_zero_of_head?_digits leading, Radix.digits_of_lt (by decide)]
    rfl

theorem Numeral.text_ofInt (value : Int) :
    (Numeral.ofInt value).text = Radix.integerText 10 value := by
  unfold text fraction ofInt Double.withSign Radix.integerText
  simp only [decide_eq_true_eq, if_true, List.append_nil]

/-- Digits without places denote the integer that they spell. -/
theorem NumberLiteral.value_whole (negative : Bool) (whole : List Char) :
    NumberLiteral.value ⟨negative, whole, [], 0⟩ =
      Number.ofInt (Double.signed negative (Radix.decimalValue whole)) := by
  have short : shortFraction ⟨negative, whole, [], 0⟩ = [] := rfl
  have none : shift ⟨negative, whole, [], 0⟩ = 0 := rfl
  unfold NumberLiteral.value significand
  rw [none, short, List.append_nil, if_pos (by decide)]
  simp only [Int.toNat_zero, Nat.pow_zero, Nat.mul_one]

theorem Numeral.value_ofInt (value : Int) : (Numeral.ofInt value).value = Number.ofInt value := by
  refine (NumberLiteral.value_whole _ _).trans ?_
  change Number.ofInt (Double.signed (value < 0)
    (Radix.decimalValue (Radix.digits 10 value.natAbs))) = Number.ofInt value
  rw [Radix.decimalValue_digits, Number.signed_natAbs]

/-! ## Fractions -/

namespace Decimal

/-- The digits after the point, with the zeros between the point and the first of them. -/
def places (digits count : Nat) : List Char :=
  List.replicate (count - (Radix.digits 10 (digits % 10 ^ count)).length) '0' ++
    Radix.digits 10 (digits % 10 ^ count)

theorem length_places {digits count : Nat} (some : 0 < count) :
    (places digits count).length = count := by
  have fits : (Radix.digits 10 (digits % 10 ^ count)).length ≤ count :=
    Radix.length_digits_le some (Nat.mod_lt _ (Nat.pow_pos (by decide)))
  rw [places, List.length_append, List.length_replicate]
  omega

theorem isDecimalDigit_of_mem_places {digits count : Nat} :
    ∀ character ∈ places digits count, Radix.isDecimalDigit character = true := by
  intro character member
  rcases List.mem_append.mp member with zero | digit
  · rw [List.eq_of_mem_replicate zero]
    decide
  · exact Radix.isDecimalDigit_of_mem_digits _ character digit

theorem decimalValue_places (digits count : Nat) :
    Radix.decimalValue (places digits count) = digits % 10 ^ count := by
  simp [places, Radix.decimalValue_append]

/-- Both sides of the point together spell the digits. -/
theorem decimalValue_positional {digits count : Nat} (some : 0 < count) :
    Radix.decimalValue (Radix.digits 10 (digits / 10 ^ count) ++ places digits count) = digits := by
  rw [Radix.decimalValue_append, Radix.decimalValue_digits, length_places some,
    decimalValue_places]
  exact Nat.div_add_mod' digits _

/-- The places do not end in a zero when the digits do not. -/
theorem dropEndWhile_places {digits count : Nat} (some : 0 < count) (last : digits % 10 ≠ 0) :
    Text.dropEndWhile (· == '0') (places digits count) = places digits count := by
  have tens : 10 ∣ 10 ^ count := Dvd.intro_left _ (Nat.pow_pred_mul some)
  have same : digits % 10 ^ count % 10 = digits % 10 := Nat.mod_mod_of_dvd _ tens
  obtain ⟨front, split⟩ := Radix.exists_digits_eq (digits % 10 ^ count)
  have mark : (Radix.digitChar (digits % 10 ^ count % 10) == '0') = false := by
    rw [same]
    exact Radix.digitChar_ne_zero (digits % 10) (Nat.mod_lt _ (by decide)) last
  unfold places Text.dropEndWhile
  rw [split, List.reverse_append, List.reverse_append, List.reverse_singleton,
    List.singleton_append, List.cons_append, List.dropWhile_cons_of_neg (by simp [mark]),
    List.reverse_cons, List.reverse_append, List.reverse_reverse, List.reverse_reverse,
    List.append_assoc]

end Decimal

/-- The numeral of digits with some of them after the point. -/
def Numeral.positional (negative : Bool) (digits count : Nat) : Numeral where
  negative := negative
  whole := Radix.digits 10 (digits / 10 ^ count)
  places := Decimal.places digits count
  inhabited := Radix.digits_ne_nil _
  whole_digits := Radix.isDecimalDigit_of_mem_digits _
  places_digits := Decimal.isDecimalDigit_of_mem_places
  leading := by
    intro leading
    rw [Radix.eq_zero_of_head?_digits leading, Radix.digits_of_lt (by decide)]
    rfl

theorem Numeral.text_positional (negative : Bool) (digits places : Nat) :
    (Numeral.positional negative digits (places + 1)).text =
      Double.withSign negative (Decimal.text ⟨digits, Int.negSucc places⟩) := by
  have inhabited : Decimal.places digits (places + 1) ≠ [] := by
    intro none
    have count := @Decimal.length_places digits (places + 1) (by omega)
    rw [none] at count
    cases count
  unfold text fraction positional
  simp only [if_neg inhabited]
  rfl

/-- Digits that do not end in a zero denote the double that is read from them. -/
theorem Numeral.value_positional (negative : Bool) {digits places : Nat} (last : digits % 10 ≠ 0) :
    (Numeral.positional negative digits (places + 1)).value =
      .float (Double.ofDecimal negative digits (Int.negSucc places)) := by
  have some : 0 < places + 1 := Nat.succ_pos places
  have below : (0 : Int) - (places + 1 : Nat) = Int.negSucc places := by omega
  unfold Numeral.value NumberLiteral.value NumberLiteral.shift NumberLiteral.significand
    NumberLiteral.shortFraction positional
  simp only [Decimal.dropEndWhile_places some last, Decimal.length_places some,
    Decimal.decimalValue_positional some, below]
  rw [if_neg (by omega)]

/-! ## All finite numbers -/

namespace Number

/-- The text of a double with a fraction is a numeral that denotes it. -/
theorem exists_numeral_of_fraction (negative : Bool) {rank : Fin (2047 * 2 ^ 52)}
    (fraction : Double.unitsOfRank rank % Double.unitsPerOne ≠ 0) :
    ∃ numeral : Numeral, (Double.finite negative rank).text = numeral.text ∧
      numeral.places.length ≤ 416 ∧ numeral.value = .float (.finite negative rank) := by
  have positive := Double.rank_pos_of_fraction fraction
  obtain ⟨places, exponent⟩ := Double.exists_places_of_fraction fraction
  have last := (Double.roundsTo_shortest positive).2
  refine ⟨.positional negative (Double.shortest rank).digits (places + 1), ?_, ?_, ?_⟩
  · rw [Numeral.text_positional, ← exponent]
    rfl
  · have least := Double.le_exponent_shortest positive
    have count : (Numeral.positional negative (Double.shortest rank).digits
        (places + 1)).places.length = places + 1 := Decimal.length_places (Nat.succ_pos places)
    omega
  · rw [Numeral.value_positional negative last, ← exponent,
      Double.ofDecimal_shortest negative fraction]

/-- **The text of a finite number is a numeral of the same value**, with few places. -/
theorem exists_numeral {number : Number} (finite : number.isFinite = true) :
    ∃ numeral : Numeral, number.plainText = String.ofList numeral.text ∧
      numeral.places.length ≤ 416 ∧ numeral.value.compare number = .eq := by
  cases integral : number.toInt? with
  | some whole =>
      refine ⟨.ofInt whole, ?_, Nat.zero_le 416, ?_⟩
      · rw [plainText, integral, Numeral.text_ofInt]
      · rw [Numeral.value_ofInt]
        exact compare_of_toInt? (toInt?_ofInt whole) integral
  | none =>
      obtain ⟨units, known⟩ := exists_units? finite
      obtain ⟨negative, rank, rfl, fraction, _⟩ := exists_fraction known integral
      obtain ⟨numeral, written, few, denoted⟩ := exists_numeral_of_fraction negative fraction
      refine ⟨numeral, ?_, few, ?_⟩
      · rw [plainText, integral, ← written]
        rfl
      · rw [denoted]
        exact Std.ReflCmp.compare_self

end Number

end Rego
