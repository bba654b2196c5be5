import Rego.Number.Quantity
import Rego.Proofs.Double.Products
import Rego.Proofs.Number.Division
import Rego.Proofs.Number.Literal
import Rego.Proofs.Number.Rounding
import Rego.Proofs.Text.Case

/-!
# Amounts of quantities

A quantity is a decimal and a unit of letters. The last digit is where the unit begins, so both are
found as they were written (`read_append`). A unit stands for a power of ten or of two, which is a
double, or for a thousandth, which is none (`factor?_known`, `byteFactor?_known`).

A decimal without a fraction is an integer, and its product with a power is exact (`scale_whole`).
Any other product is one of doubles: the nearest ones to the decimal and to the factor are
multiplied and the product is rounded, which is an overflow where one of them is out of range
(`scale_rounded`).
-/

namespace Rego.Quantity

set_option autoImplicit false

open Double (Closest IsDouble Product magnitudeOfRank rankOfUnits unitsOfRank unitsPerOne)
open NumberLiteral (Digits)
open Number (rationalValue)

/-! ## Decimals -/

/-- Digits, and perhaps a point with digits behind it. -/
inductive SpellsDecimal : List Char → List Char → List Char → Prop where
  | whole {whole : List Char} (some : whole ≠ []) (digits : Digits whole) :
      SpellsDecimal whole whole []
  | point {whole fraction : List Char} (some : whole ≠ []) (some' : fraction ≠ [])
      (digits : Digits whole) (places : Digits fraction) :
      SpellsDecimal (whole ++ '.' :: fraction) whole fraction

/-- The value of a decimal. -/
def decimalValue (whole fraction : List Char) : ℚ :=
  Radix.decimalValue whole + Radix.decimalValue fraction / 10 ^ fraction.length

/-- The parts of a decimal, which has neither a sign nor an exponent. -/
def literal (whole fraction : List Char) : NumberLiteral := ⟨false, whole, fraction, 0⟩

/-- Letters of the basic Latin alphabet only. -/
def Letters (characters : List Char) : Prop :=
  ∀ character ∈ characters, 65 ≤ character.toNat ∧ character.toNat ≤ 90 ∨
    97 ≤ character.toNat ∧ character.toNat ≤ 122

instance (characters : List Char) : Decidable (Letters characters) :=
  List.decidableBAll _ characters

variable {decimal whole fraction unit : List Char}

theorem magnitude_literal (whole fraction : List Char) :
    (literal whole fraction).magnitude = decimalValue whole fraction := by
  rw [NumberLiteral.magnitude, literal, zpow_zero, mul_one]
  rfl

theorem decimalValue_nonneg (whole fraction : List Char) : 0 ≤ decimalValue whole fraction :=
  add_nonneg (Nat.cast_nonneg _) (div_nonneg (Nat.cast_nonneg _) (pow_nonneg (by norm_num) _))

namespace SpellsDecimal

theorem written (spells : SpellsDecimal decimal whole fraction) :
    NumberLiteral.Written decimal (literal whole fraction) := by
  have mantissa : NumberLiteral.SpellsMantissa decimal whole fraction := by
    cases spells with
    | whole some digits => exact .whole some digits
    | point some _ digits places => exact .point (.inl some) digits places
  have parts := NumberLiteral.Spells.parts .absent mantissa .absent
  rw [List.nil_append, List.append_nil] at parts
  exact parts.written

/-- A decimal starts with a digit. -/
theorem exists_cons (spells : SpellsDecimal decimal whole fraction) :
    ∃ first rest, decimal = first :: rest ∧ Radix.isDecimalDigit first = true := by
  cases spells with
  | whole some digits =>
      obtain ⟨first, rest, rfl⟩ := List.exists_cons_of_ne_nil some
      exact ⟨first, rest, rfl, digits first List.mem_cons_self⟩
  | point some _ digits _ =>
      obtain ⟨first, rest, rfl⟩ := List.exists_cons_of_ne_nil some
      exact ⟨first, _, rfl, digits first List.mem_cons_self⟩

/-- A decimal ends with a digit. -/
theorem exists_concat (spells : SpellsDecimal decimal whole fraction) :
    ∃ front last, decimal = front ++ [last] ∧ Radix.isDecimalDigit last = true := by
  cases spells with
  | whole some digits =>
      obtain ⟨front, last, rfl⟩ := List.eq_nil_or_concat' decimal |>.resolve_left some
      exact ⟨front, last, rfl, digits last (by simp)⟩
  | point _ some _ places =>
      obtain ⟨front, last, rfl⟩ := List.eq_nil_or_concat' fraction |>.resolve_left some
      refine ⟨whole ++ '.' :: front, last, ?_, places last (by simp)⟩
      rw [List.append_assoc, List.cons_append]

theorem solid (spells : SpellsDecimal decimal whole fraction) :
    ∀ character ∈ decimal, Text.isBlank character = false := by
  intro character member
  cases spells with
  | whole _ digits => exact NumberLiteral.isBlank_of_digit (digits character member)
  | point _ _ digits places =>
      rcases List.mem_append.mp member with inside | inside
      · exact NumberLiteral.isBlank_of_digit (digits character inside)
      · rcases List.mem_cons.mp inside with rfl | inside
        · decide
        · exact NumberLiteral.isBlank_of_digit (places character inside)

end SpellsDecimal

/-! ## Parts of quantities -/

theorem isDecimalDigit_of_letter {character : Char}
    (letter : 65 ≤ character.toNat ∧ character.toNat ≤ 90 ∨
      97 ≤ character.toNat ∧ character.toNat ≤ 122) :
    Radix.isDecimalDigit character = false ∧ Text.isBlank character = false := by
  constructor
  · rw [← Bool.not_eq_true, Radix.isDecimalDigit, Bool.and_eq_true, decide_eq_true_iff,
      decide_eq_true_iff]
    omega
  · rw [← Bool.not_eq_true, Text.isBlank_iff]
    simp only [Text.whiteSpace, List.mem_cons, List.not_mem_nil, or_false]
    omega

section Parts

variable (spells : SpellsDecimal decimal whole fraction) (letters : Letters unit)

include spells letters

theorem suffix_append : suffix (decimal ++ unit) = unit := by
  obtain ⟨front, last, rfl, digit⟩ := spells.exists_concat
  have some : ((front ++ [last]) ++ unit).any Radix.isDecimalDigit = true :=
    List.any_eq_true.mpr ⟨last, by simp, digit⟩
  rw [suffix, if_pos some, List.reverse_append, List.reverse_concat, List.takeWhile_append_of_pos,
    List.takeWhile_cons_of_neg, List.append_nil, List.reverse_reverse]
  · simp [digit]
  · intro character member
    rw [(isDecimalDigit_of_letter (letters character (List.mem_reverse.mp member))).1]
    rfl

theorem digits_append : digits (decimal ++ unit) = decimal := by
  rw [digits, suffix_append spells letters, List.length_append, Nat.add_sub_cancel,
    List.take_left]

/-- **A decimal and its unit are found as they were written**, if its places fit into memory. -/
theorem read_append (short : fraction.length < 2 ^ 63) :
    read (decimal ++ unit) = .ok ((literal whole fraction).value, unit) := by
  obtain ⟨first, rest, same, digit⟩ := spells.exists_cons
  have unquoted : unquote (decimal ++ unit) = decimal ++ unit := by
    refine if_neg ?_
    rintro ⟨_, opened, _⟩
    rw [same] at opened
    obtain rfl := Option.some.inj opened
    cases digit
  have solid : ¬((decimal ++ unit).any Text.isBlank = true) := by
    rw [List.any_eq_true]
    rintro ⟨character, member, blank⟩
    rcases List.mem_append.mp member with inside | inside
    · rw [spells.solid character inside] at blank
      cases blank
    · rw [(isDecimalDigit_of_letter (letters character inside)).2] at blank
      cases blank
  have number : number decimal = .ok (literal whole fraction).value := by
    have written := spells.written
    rw [← String.toList_ofList (l := decimal)] at written
    have fits := @NumberLiteral.fitsWord_shift (literal whole fraction) short rfl
    have read : Number.ofText (String.ofList decimal) = .ok (literal whole fraction).value := by
      rw [Number.ofText_of_written written, if_pos fits]
    rw [← read]
    unfold Quantity.number
    split
    · cases same
      cases digit
    · rfl
  rw [read, unquoted, digits_append spells letters, suffix_append spells letters, if_neg solid,
    number]

end Parts

/-! ## Units -/

/-- The value of a factor. -/
def Factor.value (factor : Factor) : ℚ := (factor.base : ℚ) ^ factor.exponent

/-- A power that is a double, or a thousandth. -/
inductive Factor.Known : Factor → Prop where
  | power {base exponent rank : Nat} (spelled : unitsOfRank rank = base ^ exponent * unitsPerOne)
      (positive : 0 < base ^ exponent) (small : base ^ exponent ≤ 2 ^ 60) :
      Known ⟨base, exponent⟩
  | thousandth : Known ⟨10, -3⟩

theorem known_two {exponent : Int} (natural : 0 ≤ exponent) (small : exponent ≤ 60) :
    Factor.Known ⟨2, exponent⟩ := by
  obtain ⟨power, rfl⟩ := Int.eq_ofNat_of_zero_le natural
  obtain ⟨rank, spelled⟩ :=
    Double.exists_rank_of_significand (power + Double.unitExponent) (show 1 < 2 ^ 53 by decide)
  refine .power (spelled.trans ?_) (Nat.two_pow_pos _)
    (Nat.pow_le_pow_right (by decide) (by omega))
  rw [Nat.one_mul, Nat.pow_add, Double.unitsPerOne_eq]

theorem known_ten {exponent : Int} (natural : 0 ≤ exponent) (small : exponent ≤ 18) :
    Factor.Known ⟨10, exponent⟩ := by
  obtain ⟨power, rfl⟩ := Int.eq_ofNat_of_zero_le natural
  have five : 5 ^ power < 2 ^ 53 :=
    Nat.lt_of_le_of_lt (Nat.pow_le_pow_right (by decide) (show power ≤ 18 by omega)) (by decide)
  obtain ⟨rank, spelled⟩ := Double.exists_rank_of_significand (power + Double.unitExponent) five
  refine .power (spelled.trans ?_) (Nat.pow_pos (by decide))
    ((Nat.pow_le_pow_right (by decide) (show power ≤ 18 by omega)).trans (by decide))
  rw [Nat.pow_add, ← Nat.mul_assoc, ← Nat.mul_pow, Double.unitsPerOne_eq]

theorem letters_of_lowered {text : String}
    (lowered : String.ofList (unit.map Text.lowerBasic) = text)
    (letters : Letters text.toList) : Letters unit := by
  subst lowered
  rw [String.toList_ofList] at letters
  intro character member
  have letter := letters _ (List.mem_map_of_mem member)
  unfold Text.lowerBasic at letter
  split at letter
  · next upper => exact .inl upper
  · exact letter

theorem letters_of_spelled {text : String} (spelled : String.ofList unit = text)
    (letters : Letters text.toList) : Letters unit := by
  subst spelled
  rwa [String.toList_ofList] at letters

variable {factor : Factor}

/-- **A unit of resources is letters for a known factor.** -/
theorem factor?_known (known : factor? unit = some factor) : Letters unit ∧ factor.Known := by
  unfold factor? at known
  split at known
  case h_14 =>
    -- the units of powers of two are told by their lower case
    split at known
    case h_7 => cases known
    all_goals
      next lowered =>
        cases known
        exact ⟨letters_of_lowered lowered (by decide), known_two (by decide) (by decide)⟩
  case h_12 =>
    next spelled =>
      cases known
      exact ⟨letters_of_spelled spelled (by decide), .thousandth⟩
  all_goals
    next spelled =>
      cases known
      exact ⟨letters_of_spelled spelled (by decide), known_ten (by decide) (by decide)⟩

/-- **A unit of bytes is letters for a known factor**, and this is no thousandth. -/
theorem byteFactor?_known (known : byteFactor? unit = some factor) :
    Letters unit ∧ factor.Known ∧ 0 ≤ factor.exponent := by
  unfold byteFactor? at known
  split at known
  case h_26 => cases known
  all_goals
    next lowered =>
      cases known
      refine ⟨letters_of_lowered lowered (by decide), ?_, by decide⟩
      first
        | exact known_two (by decide) (by decide)
        | exact known_ten (by decide) (by decide)

/-! ## Products -/

theorem exactValue?_ofDouble (rank : Fin (2047 * 2 ^ 52)) :
    (Number.ofDouble (.finite false rank)).exactValue? =
      some (rationalValue (magnitudeOfRank rank)) := by
  have value : (Number.float (.finite false rank)).exactValue? =
      some (rationalValue (magnitudeOfRank rank)) := rfl
  unfold Number.ofDouble
  split
  · next whole integral =>
      split
      · have denotes : (Number.float (.finite false rank)).Denotes whole :=
          Number.toInt?_eq_some_iff.mp integral
        exact (Number.denotes_ofInt whole).trans (denotes.symm.trans value)
      · exact value
  · exact value

/-- What becomes of the closest ranks of two values and of their product: the number of the product,
or an overflow if the first value or the product is out of range. -/
def Rounds (value factor : ℚ) (result : Except ArithmeticError Number) : Prop :=
  ∃ first second product, Product value factor first second product ∧
    ((first < 2047 * 2 ^ 52 ∧ product < 2047 * 2 ^ 52 ∧ ∃ amount, result = .ok amount ∧
        amount.exactValue? = some (rationalValue (magnitudeOfRank product))) ∨
      ((2047 * 2 ^ 52 ≤ first ∨ 2047 * 2 ^ 52 ≤ product) ∧ result = .error .overflow))

theorem rounds_mul {value factor : ℚ} {first second : Nat} (left : Closest first value)
    (right : Closest second factor) (finite : second < 2047 * 2 ^ 52) (positive : 0 < second) :
    Rounds value factor
      (Number.ofFinite ((Double.ofRank false first).mul (Double.ofRank false second))) := by
  refine ⟨first, second, _, ⟨left, right, Double.closest_mul first second⟩, ?_⟩
  have factor_finite : Double.ofRank false second = .finite false ⟨second, finite⟩ := dif_pos finite
  rw [factor_finite]
  by_cases inside : first < 2047 * 2 ^ 52
  · have value_finite : Double.ofRank false first = .finite false ⟨first, inside⟩ := dif_pos inside
    rw [value_finite]
    have product : (Double.finite false ⟨first, inside⟩).mul (.finite false ⟨second, finite⟩) =
        Double.ofRank false
          (rankOfUnits (unitsOfRank first * unitsOfRank second) unitsPerOne) := rfl
    rw [product]
    generalize rankOfUnits (unitsOfRank first * unitsOfRank second) unitsPerOne = rank
    by_cases within : rank < 2047 * 2 ^ 52
    · refine .inl ⟨inside, within, Number.ofDouble (.finite false ⟨rank, within⟩), ?_,
        exactValue?_ofDouble ⟨rank, within⟩⟩
      rw [Double.ofRank, dif_pos within]
      rfl
    · refine .inr ⟨.inr (Nat.le_of_not_lt within), ?_⟩
      rw [Double.ofRank, dif_neg within]
      rfl
  · refine .inr ⟨.inl (Nat.le_of_not_lt inside), ?_⟩
    have infinite : Double.ofRank false first = .infinite false := dif_neg inside
    rw [infinite]
    have product : (Double.infinite false).mul (.finite false ⟨second, finite⟩) =
        if second = 0 then .nan else .infinite (false != false) := rfl
    rw [product, if_neg positive.ne']
    rfl

/-! ## Factors -/

theorem Factor.value_power (base exponent : Nat) :
    Factor.value ⟨base, exponent⟩ = ((base ^ exponent : Nat) : ℚ) := by
  rw [Factor.value, zpow_natCast, Nat.cast_pow]

theorem Factor.value_thousandth : Factor.value ⟨10, -3⟩ = 1 / 1000 := by
  norm_num [Factor.value]

theorem Factor.Known.bounds (known : factor.Known) :
    1 / 1000 ≤ factor.value ∧ factor.value ≤ 2 ^ 60 := by
  cases known with
  | power _ positive small =>
      rw [value_power]
      have least : (1 : ℚ) ≤ ((_ : Nat) : ℚ) := Nat.one_le_cast.mpr positive
      have most : ((_ : Nat) : ℚ) ≤ ((2 ^ 60 : Nat) : ℚ) := Nat.cast_le.mpr small
      refine ⟨by linarith, most.trans (by norm_num)⟩
  | thousandth =>
      rw [value_thousandth]
      norm_num

/-- A value and its product with a factor are rounded to themselves where both are doubles. -/
theorem Factor.Known.eq_of_ranks (known : factor.Known) {value : ℚ} {first second product : Nat}
    (rounded : Product value factor.value first second product) {valueRank productRank : Nat}
    (one : magnitudeOfRank valueRank = value)
    (three : magnitudeOfRank productRank = value * factor.value) :
    first = valueRank ∧ product = productRank := by
  cases known with
  | power spelled _ _ =>
      refine rounded.eq_of_ranks one ((Double.magnitudeOfRank_of_units spelled).trans ?_) three
      exact (value_power _ _).symm
  | thousandth =>
      rw [value_thousandth] at rounded three
      exact rounded.eq_of_thousandth one three

section Rounds

variable {value : ℚ} {result : Except ArithmeticError Number} (known : factor.Known)
  (rounds : Rounds value factor.value result)

include known rounds

/-- **A product of doubles is exact if it is a double.** -/
theorem Rounds.exact (finite : IsDouble value) (finite' : IsDouble (value * factor.value)) :
    ∃ amount, result = .ok amount ∧
      amount.exactValue? = some (rationalValue (value * factor.value)) := by
  obtain ⟨first, second, product, rounded, outcome⟩ := rounds
  obtain ⟨valueRank, inside, one⟩ := finite
  obtain ⟨productRank, inside', three⟩ := finite'
  obtain ⟨rfl, rfl⟩ := known.eq_of_ranks rounded one three
  rcases outcome with ⟨_, _, amount, same, amount_value⟩ | ⟨beyond | beyond, _⟩
  · rw [three] at amount_value
    exact ⟨amount, same, amount_value⟩
  · exact absurd inside (Nat.not_lt.mpr beyond)
  · exact absurd inside' (Nat.not_lt.mpr beyond)

/-- **A product that is not large is nearly exact.** -/
theorem Rounds.near (natural : 0 ≤ value) (small : value * factor.value < 2 ^ 1000) :
    ∃ amount close, result = .ok amount ∧ amount.exactValue? = some (rationalValue close) ∧
      0 ≤ close ∧ |value * factor.value - close| ≤ (value * factor.value + 1) / 2 ^ 51 := by
  obtain ⟨first, second, product, rounded, outcome⟩ := rounds
  obtain ⟨least, most⟩ := known.bounds
  obtain ⟨inside, inside'⟩ := rounded.lt_rankBound natural least most small
  rcases outcome with ⟨_, _, amount, same, amount_value⟩ | ⟨beyond | beyond, _⟩
  · exact ⟨amount, magnitudeOfRank product, same, amount_value,
      Double.magnitudeOfRank_nonneg product, rounded.error natural least most⟩
  · exact absurd inside (Nat.not_lt.mpr beyond)
  · exact absurd inside' (Nat.not_lt.mpr beyond)

end Rounds

/-- The double of an integer from zero on. -/
theorem toDouble_ofInt (whole : Nat) : ∃ rank,
    (Number.ofInt whole).toDouble = Double.ofRank false rank ∧ Closest rank whole := by
  refine ⟨rankOfUnits (whole * unitsPerOne) 1, ?_, ?_⟩
  · rw [Number.toDouble_of_integer? (Number.integer?_ofInt whole), Double.ofInt,
      decide_eq_false (by omega)]
    rfl
  · have closest := Double.closest_rankOfUnits whole Nat.one_pos
    rwa [Nat.cast_one, div_one] at closest

theorem power_natural (base exponent : Nat) :
    Number.power base exponent = .ok (Number.ofInt (base ^ exponent : Nat)) := by
  rw [Number.power, if_pos (Int.natCast_nonneg exponent), Int.natAbs_natCast]
  rfl

theorem power_thousandth :
    Number.power 10 (-3) = .ok (.float (Double.ofRank false Double.thousandth)) := by
  decide +kernel

/-- The number of a known factor is an integer or the double of a thousandth. -/
theorem Factor.Known.number (known : factor.Known) :
    ∃ number rank, Number.power factor.base factor.exponent = .ok number ∧
      number.toDouble = Double.ofRank false rank ∧ Closest rank factor.value ∧
      (0 ≤ factor.exponent ↔ number.integer?.isSome) := by
  cases known with
  | @power base exponent _ _ _ _ =>
      obtain ⟨rank, double, closest⟩ := toDouble_ofInt (base ^ exponent)
      have natural : (0 : Int) ≤ exponent := Int.natCast_nonneg exponent
      refine ⟨_, rank, power_natural base exponent, double, ?_, ?_⟩
      · rw [value_power]
        exact closest
      · rw [Number.integer?_ofInt]
        exact iff_of_true natural rfl
  | thousandth =>
      refine ⟨_, Double.thousandth, power_thousandth, rfl, ?_, by decide⟩
      rw [value_thousandth]
      exact Double.closest_thousandth

theorem scale_of_power {number power : Number}
    (found : Number.power factor.base factor.exponent = .ok power) :
    scale number factor = number.mul power := by
  rw [scale, found]
  rfl

theorem mul_of_float {left right : Number} (some : left.integer? = none ∨ right.integer? = none) :
    left.mul right = Number.ofFinite (left.toDouble.mul right.toDouble) := by
  unfold Number.mul Number.Operation.apply
  split
  · next one two =>
      rw [one, two] at some
      rcases some with none | none <;> cases none
  · rfl

/-- **A product that is not one of integers is rounded.** -/
theorem scale_rounded (known : factor.Known) {number : Number} {value : ℚ} {first : Nat}
    (double : number.toDouble = Double.ofRank false first) (closest : Closest first value)
    (rounded : number.integer? = none ∨ ¬0 ≤ factor.exponent) :
    Rounds value factor.value (scale number factor) := by
  obtain ⟨power, second, found, double', closest', whole⟩ := known.number
  obtain ⟨least, most⟩ := known.bounds
  have off := closest'.error (by linarith)
  have finite : second < 2047 * 2 ^ 52 := by
    refine closest'.lt_rankBound (by linarith) ?_
    calc 2 * factor.value ≤ 2 ^ 61 := by linarith
      _ < 2 ^ 1024 := pow_lt_pow_right₀ (by norm_num) (by decide)
  have positive : 0 < second := by
    refine Nat.pos_of_ne_zero ?_
    rintro rfl
    have zero : magnitudeOfRank 0 = 0 := by
      rw [magnitudeOfRank, Double.unitsOfRank_zero, Nat.cast_zero, zero_div]
    rw [zero, sub_zero, abs_of_nonneg (by linarith)] at off
    linarith
  have other : number.integer? = none ∨ power.integer? = none := by
    refine rounded.imp_right fun fraction => ?_
    rwa [whole, Option.not_isSome_iff_eq_none] at fraction
  rw [scale_of_power found, mul_of_float other, double, double']
  exact rounds_mul closest closest' finite positive

/-- **A product of integers is exact.** -/
theorem scale_whole (known : factor.Known) (natural : 0 ≤ factor.exponent) (whole : Nat) :
    ∃ amount : Nat, scale (Number.ofInt whole) factor = .ok (Number.ofInt amount) ∧
      (amount : ℚ) = whole * factor.value := by
  cases known with
  | @power base exponent _ _ _ _ =>
      refine ⟨whole * base ^ exponent, ?_, ?_⟩
      · rw [scale_of_power (power_natural base exponent), Int.natCast_mul]
        exact Number.Operation.multiplication.apply_ofInt _ _
      · rw [Factor.value_power, Nat.cast_mul]
  | thousandth => exact absurd natural (by decide)

/-! ## Literals -/

/-- A decimal without a significant fraction is an integer. -/
theorem value_of_zeros (zeros : ∀ character ∈ fraction, character = '0') :
    ∃ natural : Nat, (literal whole fraction).value = Number.ofInt natural ∧
      (natural : ℚ) = decimalValue whole fraction := by
  have short : (literal whole fraction).shortFraction = [] := by
    have dropped := @Text.dropEndWhile_append Char (· == '0') [] fraction
      (fun character member => beq_iff_eq.mpr (zeros character member)) nofun
    rwa [List.nil_append] at dropped
  have shift : (literal whole fraction).shift = 0 := by
    rw [NumberLiteral.shift, short]
    rfl
  obtain ⟨integer, same, value⟩ :=
    (literal whole fraction).value_of_scaled shift.ge (shift.trans_le (by decide))
  have written : (literal whole fraction).writtenValue = decimalValue whole fraction :=
    (if_neg Bool.false_ne_true).trans (magnitude_literal whole fraction)
  rw [written] at value
  have natural : 0 ≤ integer := by
    have positive := decimalValue_nonneg whole fraction
    rw [← value] at positive
    exact_mod_cast positive
  obtain ⟨number, rfl⟩ := Int.eq_ofNat_of_zero_le natural
  exact ⟨number, same, by exact_mod_cast value⟩

/-- A decimal with a significant fraction is the nearest double. -/
theorem value_of_fraction (some : ¬∀ character ∈ fraction, character = '0') :
    ∃ rank, (literal whole fraction).value = .float (Double.ofRank false rank) ∧
      Closest rank (decimalValue whole fraction) := by
  have short : (literal whole fraction).shortFraction ≠ [] := by
    intro none
    obtain ⟨zeros, same⟩ := (literal whole fraction).exists_fraction_eq
    rw [none, List.nil_append] at same
    have zero : ∀ character ∈ (literal whole fraction).fraction, character = '0' := by
      rw [same]
      exact fun character => List.eq_of_mem_replicate
    exact some zero
  have shift : ¬(0 ≤ (literal whole fraction).shift ∧ (literal whole fraction).shift ≤ 1000) := by
    have length := List.length_pos_iff.mpr short
    have same : (literal whole fraction).shift =
        0 - ((literal whole fraction).shortFraction.length : Int) := rfl
    omega
  obtain ⟨_, same, rank, closest, rfl⟩ := (literal whole fraction).value_of_unscaled shift
  rw [magnitude_literal] at closest
  exact ⟨rank, same, closest⟩

/-! ## Quantities -/

/-- A product of integers: no digit behind the point but zeros, and no thousandth. -/
def Integral (fraction : List Char) (factor : Factor) : Prop :=
  (∀ character ∈ fraction, character = '0') ∧ 0 ≤ factor.exponent

/-- **The product of a decimal and a known factor is exact if it is one of integers.** -/
theorem scale_exact (known : factor.Known) (integral : Integral fraction factor) :
    ∃ amount : Nat, scale (literal whole fraction).value factor = .ok (Number.ofInt amount) ∧
      (amount : ℚ) = decimalValue whole fraction * factor.value := by
  obtain ⟨natural, same, value⟩ := @value_of_zeros whole fraction integral.1
  rw [same, ← value]
  exact scale_whole known integral.2 natural

/-- **Any other product is one of doubles.** -/
theorem scale_inexact (known : factor.Known) (other : ¬Integral fraction factor) :
    Rounds (decimalValue whole fraction) factor.value
      (scale (literal whole fraction).value factor) := by
  by_cases zeros : ∀ character ∈ fraction, character = '0'
  · obtain ⟨natural, same, value⟩ := @value_of_zeros whole fraction zeros
    obtain ⟨rank, double, closest⟩ := toDouble_ofInt natural
    rw [value] at closest
    rw [same]
    exact scale_rounded known double closest (.inr fun power => other ⟨zeros, power⟩)
  · obtain ⟨rank, same, closest⟩ := @value_of_fraction whole fraction zeros
    rw [same]
    exact scale_rounded known rfl closest (.inl rfl)

end Rego.Quantity
