import Rego.Builtin.Registry
import Rego.Proofs.Builtin.Calls
import Rego.Proofs.Number.Quantity

/-!
# Calls on quantities

A call reads a quantity, and gives its amount or fails as the reading does (`ReadBy`). The amount of
a decimal with a unit is their product (`amount_append`), and that of bytes is its rounding
(`bytes_append`). So a call multiplies exactly where it multiplies integers, and elsewhere what it
gives or rounds is the product of the nearest doubles (`Scaled`, `scaled_of_scale`).

Such a product may be slightly less or more than that of the decimal and the unit. A quantity
that stands for an integer need not give this integer, and one below a half may be rounded up
(`not_all_quantities_exact`).
-/

namespace Rego.Builtin.Conversions

set_option autoImplicit false

open Double (IsDouble Product magnitudeOfRank)
open Number (rationalValue)
open Quantity
open Registry (Gives Fails)

variable {decimal whole fraction unit : List Char} {factor : Factor}

/-! ## Reading -/

theorem amount_append (spells : SpellsDecimal decimal whole fraction)
    (short : fraction.length < 2 ^ 63) (known : factor? unit = some factor) :
    Quantity.amount (decimal ++ unit) =
      (scale (literal whole fraction).value factor).mapError .arithmetic := by
  have read := read_append spells (factor?_known known).1 short
  simp only [Quantity.amount, read, known, bind, Except.bind]

theorem bytes_append (spells : SpellsDecimal decimal whole fraction)
    (short : fraction.length < 2 ^ 63) (known : byteFactor? unit = some factor) :
    bytes (decimal ++ unit) =
      ((scale (literal whole fraction).value factor).mapError .arithmetic).map Number.round := by
  have read := read_append spells (byteFactor?_known known).1 short
  simp only [bytes, read, known, bind, Except.bind]

theorem amount_of_ok {read : List Char → Except QuantityError Number} {text : String}
    {number : Number} (known : read text.toList = .ok number) (name : String) :
    amount read name (.string text) = .ok (.number number) := by
  simp only [amount, Argument.string, known, bind, Except.bind, pure, Except.pure]

theorem amount_of_error {read : List Char → Except QuantityError Number} {text : String}
    {error : QuantityError} (refused : read text.toList = .error error)
    (survived : error ≠ .shiftOverflow) (name : String) :
    amount read name (.string text) = failed name (.notQuantity error) := by
  cases error with
  | shiftOverflow => exact absurd rfl survived
  | _ => simp only [amount, Argument.string, refused, bind, Except.bind]

/-- A call with a text gives or fails as the text is read, if the reading is survived. -/
structure ReadBy (name : String) (read : List Char → Except QuantityError Number) : Prop where
  gives : ∀ {text : String} {amount : Number}, read text.toList = .ok amount →
    Gives name [.string text] (.number amount)
  fails : ∀ {text : String} {error : QuantityError}, read text.toList = .error error →
    error ≠ .shiftOverflow → Fails name [.string text] (.notQuantity error)

theorem readBy_of_find? {metadata : Metadata} {read : List Char → Except QuantityError Number}
    (found : Registry.standard.find? metadata.name = some (unary metadata (amount read)))
    (fresh : Registry.isKept metadata.name metadata = false)
    (checked : ∀ text : String,
      Registry.check metadata.name metadata.declaration [.string text] = .ok ()) :
    ReadBy metadata.name read := by
  constructor
  · intro text amount known
    exact Registry.gives_of_run found fresh (checked text) (amount_of_ok known metadata.name)
  · intro text error refused survived
    exact Registry.fails_of_run found fresh (checked text)
      (amount_of_error refused survived metadata.name)

theorem readBy_parse : ReadBy "units.parse" Quantity.amount :=
  @readBy_of_find? Declared.unitsParse _ rfl (by decide) fun _ => Registry.check_ok rfl rfl

theorem readBy_parseBytes : ReadBy "units.parse_bytes" bytes :=
  @readBy_of_find? Declared.unitsParseBytes _ rfl (by decide) fun _ => Registry.check_ok rfl rfl

/-! ## Amounts -/

/-- A number with a value. -/
def IsValue (value : ℚ) (amount : Number) : Prop :=
  amount.exactValue? = some (rationalValue value)

/-- The integer nearest to a value, halves away from zero. -/
def IsRounded (value : ℚ) (amount : Number) : Prop :=
  ∃ whole, amount.Denotes whole ∧ IsNearestInteger value whole

theorem isRounded_round {value : ℚ} {amount : Number} (known : IsValue value amount) :
    IsRounded value amount.round :=
  ⟨nearestInteger value, Number.Rounding.nearest.denotes_roundWith known,
    isNearestInteger_nearestInteger value⟩

/-- A call with a text gives a number that `Is` a value. -/
def GivesAmount (name text : String) (Is : ℚ → Number → Prop) (value : ℚ) : Prop :=
  ∃ amount, Gives name [.string text] (.number amount) ∧ Is value amount

/-- What a call comes to for a decimal with a unit, whose product is perhaps `integral`. -/
structure Scaled (name text : String) (Is : ℚ → Number → Prop) (value factor : ℚ)
    (integral : Prop) : Prop where
  /-- A product of integers is exact. -/
  exact : integral → GivesAmount name text Is (value * factor)
  /-- Any other is the product of the nearest doubles, unless it is out of range. -/
  rounded : ¬integral → ∃ first second product, Product value factor first second product ∧
    (first < 2047 * 2 ^ 52 ∧ product < 2047 * 2 ^ 52 ∧
        GivesAmount name text Is (magnitudeOfRank product) ∨
      (2047 * 2 ^ 52 ≤ first ∨ 2047 * 2 ^ 52 ≤ product) ∧
        Fails name [.string text] (.notQuantity (.arithmetic .overflow)))
  /-- It is exact where the value and the product are doubles. -/
  represented : IsDouble value → IsDouble (value * factor) →
    GivesAmount name text Is (value * factor)
  /-- It is nearly exact where the product is not large. -/
  near : value * factor < 2 ^ 1000 → ∃ close,
    |value * factor - close| ≤ (value * factor + 1) / 2 ^ 51 ∧ GivesAmount name text Is close

section Scaled

variable {name text : String} {Is : ℚ → Number → Prop} {finish : Number → Number}
  (gives : ∀ {amount : Number}, scale (literal whole fraction).value factor = .ok amount →
    Gives name [.string text] (.number (finish amount)))
  (fails : ∀ {error : ArithmeticError}, scale (literal whole fraction).value factor = .error error →
    Fails name [.string text] (.notQuantity (.arithmetic error)))
  (finishes : ∀ {value : ℚ} {amount : Number}, IsValue value amount → Is value (finish amount))
  (known : factor.Known)

include gives fails finishes known

/-- **A call that finishes a product comes to what the product is.** -/
theorem scaled_of_scale : Scaled name text Is (decimalValue whole fraction) factor.value
    (Integral fraction factor) := by
  have given : ∀ {value : ℚ} {amount : Number},
      scale (literal whole fraction).value factor = .ok amount → IsValue value amount →
        GivesAmount name text Is value :=
    fun same value => ⟨_, gives same, finishes value⟩
  have natural := decimalValue_nonneg whole fraction
  have exact : Integral fraction factor →
      ∃ amount, scale (literal whole fraction).value factor = .ok amount ∧
        IsValue (decimalValue whole fraction * factor.value) amount := by
    intro integral
    obtain ⟨amount, same, value⟩ := @scale_exact whole _ _ known integral
    refine ⟨Number.ofInt amount, same, ?_⟩
    rw [← value]
    exact Number.denotes_ofInt amount
  constructor
  case exact =>
    intro integral
    obtain ⟨amount, same, value⟩ := exact integral
    exact given same value
  case rounded =>
    intro other
    obtain ⟨first, second, product, closest, outcome⟩ := @scale_inexact whole _ _ known other
    refine ⟨first, second, product, closest, outcome.imp ?_ ?_⟩
    · rintro ⟨inside, within, amount, same, value⟩
      exact ⟨inside, within, given same value⟩
    · exact And.imp_right fails
  case represented =>
    intro finite finite'
    by_cases integral : Integral fraction factor
    · obtain ⟨amount, same, value⟩ := exact integral
      exact given same value
    · obtain ⟨amount, same, value⟩ := (scale_inexact known integral).exact known finite finite'
      exact given same value
  case near =>
    intro small
    by_cases integral : Integral fraction factor
    · obtain ⟨amount, same, value⟩ := exact integral
      refine ⟨_, ?_, given same value⟩
      have total := mul_nonneg natural (known.bounds.1.trans' (by norm_num))
      rw [sub_self, abs_zero]
      positivity
    · obtain ⟨amount, close, same, value, _, off⟩ :=
        (scale_inexact known integral).near known natural small
      exact ⟨close, off, given same value⟩

end Scaled

/-- What a call for bytes comes to for a decimal with a unit. -/
structure ScaledBytes (text : String) (value factor : ℚ) (integral : Prop) : Prop
    extends Scaled "units.parse_bytes" text IsRounded value factor integral where
  /-- The product is rounded as if it were exact unless it is all but halfway between integers. -/
  clear : value * factor < 2 ^ 1000 →
    (∀ below : Int, (value * factor + 1) / 2 ^ 51 < |value * factor - (below + 1 / 2)|) →
      GivesAmount "units.parse_bytes" text IsRounded (value * factor)
  /-- Integers that are not large are found. -/
  whole : ∀ bytes : Nat, value * factor = bytes → bytes < 2 ^ 49 →
    GivesAmount "units.parse_bytes" text IsValue bytes

variable {text : String} {value unitValue : ℚ} {integral : Prop}

theorem Scaled.bytes (scaled : Scaled "units.parse_bytes" text IsRounded value unitValue integral) :
    ScaledBytes text value unitValue integral := by
  have clear : value * unitValue < 2 ^ 1000 →
      (∀ below : Int, (value * unitValue + 1) / 2 ^ 51 < |value * unitValue - (below + 1 / 2)|) →
        GivesAmount "units.parse_bytes" text IsRounded (value * unitValue) := by
    intro small clear
    obtain ⟨close, off, amount, gives, whole, denotes, nearest⟩ := scaled.near small
    exact ⟨amount, gives, whole, denotes, nearest.of_close off clear⟩
  refine ⟨scaled, clear, fun bytes same few => ?_⟩
  have bound : (bytes : ℚ) < 2 ^ 49 := by exact_mod_cast few
  rw [same] at clear
  obtain ⟨amount, gives, whole, denotes, nearest⟩ := clear
    (bound.trans (pow_lt_pow_right₀ (by norm_num) (by decide))) fun below => by
      have apart : (1 : ℚ) ≤ |2 * (bytes - below : Int) - 1| := by
        exact_mod_cast Int.one_le_abs (show 2 * (bytes - below : Int) - 1 ≠ 0 by omega)
      have half : (bytes : ℚ) - (below + 1 / 2) = (2 * (bytes - below : Int) - 1) / 2 := by
        push_cast
        ring
      push_cast at apart
      rw [half, abs_div, abs_two]
      push_cast
      linarith
  have exact := nearest.closest bytes
  rw [Int.cast_natCast, sub_self, abs_zero, abs_nonpos_iff, sub_eq_zero] at exact
  refine ⟨amount, gives, ?_⟩
  rw [exact]
  exact denotes

/-- **The amount of a decimal with a unit is their product, exact for integers and rounded
otherwise**, if the places of the decimal fit into memory. -/
theorem quantities_scaled (spells : SpellsDecimal decimal whole fraction)
    (short : fraction.length < 2 ^ 63) :
    (factor? unit = some factor →
      Scaled "units.parse" (String.ofList (decimal ++ unit)) IsValue (decimalValue whole fraction)
        factor.value (Integral fraction factor)) ∧
    (byteFactor? unit = some factor →
      ScaledBytes (String.ofList (decimal ++ unit)) (decimalValue whole fraction) factor.value
        (Integral fraction factor)) := by
  constructor
  · intro known
    have read := amount_append spells short known
    rw [← @String.toList_ofList (decimal ++ unit)] at read
    refine scaled_of_scale (fun same => readBy_parse.gives ?_) (fun refused =>
      readBy_parse.fails ?_ nofun) id (factor?_known known).2
    · rw [read, same]
      rfl
    · rw [read, refused]
      rfl
  · intro known
    have read := bytes_append spells short known
    rw [← @String.toList_ofList (decimal ++ unit)] at read
    refine (scaled_of_scale (fun same => readBy_parseBytes.gives ?_) (fun refused =>
      readBy_parseBytes.fails ?_ nofun) isRounded_round (byteFactor?_known known).2.1).bytes
    · rw [read, same]
      rfl
    · rw [read, refused]
      rfl

/-- Thousands and binary thousands of one and a half. -/
theorem quantities_scaled_samples :
    SpellsDecimal ['1', '.', '5'] ['1'] ['5'] ∧ ['5'].length < 2 ^ 63 ∧
      factor? ['K'] = some ⟨10, 3⟩ ∧
      GivesAmount "units.parse" "1.5K" IsValue 1500 ∧
      byteFactor? ['K', 'i', 'B'] = some ⟨2, 10⟩ ∧
      GivesAmount "units.parse_bytes" "1.5KiB" IsValue 1536 := by
  have spells : SpellsDecimal ['1', '.', '5'] ['1'] ['5'] :=
    @SpellsDecimal.point ['1'] ['5'] (by decide) (by decide) (by decide) (by decide)
  have value : decimalValue ['1'] ['5'] = 3 / 2 := by
    have digits : decimalValue ['1'] ['5'] = ((1 : Nat) : ℚ) + ((5 : Nat) : ℚ) / 10 ^ 1 := rfl
    rw [digits]
    norm_num
  have thousand : Factor.value ⟨10, 3⟩ = 1000 := by norm_num [Factor.value]
  have binary : Factor.value ⟨2, 10⟩ = 1024 := by norm_num [Factor.value]
  have short : ['5'].length < 2 ^ 63 := by decide
  refine ⟨spells, short, rfl, ?_, rfl, ?_⟩
  · have given := ((@quantities_scaled _ _ _ ['K'] ⟨10, 3⟩ spells short).1 rfl).represented
    have product : (3 / 2 * 1000 : ℚ) = 1500 := by norm_num
    rw [value, thousand, product] at given
    refine given ?_ ?_
    · have double := @Double.isDouble_dyadic 3 1 (by decide) (by decide)
      rwa [pow_one] at double
    · have double := @Double.isDouble_dyadic 1500 0 (by decide) (by decide)
      rwa [pow_zero, div_one] at double
  · have given := ((@quantities_scaled _ _ _ ['K', 'i', 'B'] ⟨2, 10⟩ spells short).2 rfl).whole
      1536
    rw [value, binary] at given
    exact given (by norm_num) (by decide)

/-- The statement that quantities are exact is wrong: thousands of a decimal that is no double are
slightly less than the integer that they stand for, and less than a half is rounded up. -/
theorem not_all_quantities_exact :
    (¬∀ (decimal whole fraction unit : List Char) (factor : Factor),
      SpellsDecimal decimal whole fraction → factor? unit = some factor →
        ∀ amount : Nat, decimalValue whole fraction * factor.value = amount →
          GivesAmount "units.parse" (String.ofList (decimal ++ unit)) IsValue amount) ∧
    ¬∀ (decimal whole fraction unit : List Char) (factor : Factor),
      SpellsDecimal decimal whole fraction → byteFactor? unit = some factor →
        GivesAmount "units.parse_bytes" (String.ofList (decimal ++ unit)) IsRounded
          (decimalValue whole fraction * factor.value) := by
  constructor
  · intro exact
    have short : Gives "units.parse" [.string "1.005K"]
        (.number (.float (.finite false ⟨4652051289306300415, by decide⟩))) :=
      readBy_parse.gives (by decide +kernel)
    have spells : SpellsDecimal ['1', '.', '0', '0', '5'] ['1'] ['0', '0', '5'] :=
      @SpellsDecimal.point ['1'] ['0', '0', '5'] (by decide) (by decide) (by decide) (by decide)
    have value : decimalValue ['1'] ['0', '0', '5'] * Factor.value ⟨10, 3⟩ = (1005 : Nat) := by
      have digits : decimalValue ['1'] ['0', '0', '5'] =
          ((1 : Nat) : ℚ) + ((5 : Nat) : ℚ) / 10 ^ 3 := rfl
      rw [digits]
      norm_num [Factor.value]
    obtain ⟨amount, gives, denotes⟩ := exact _ _ _ ['K'] ⟨10, 3⟩ spells rfl 1005 value
    cases short.unique gives
    have integral := Number.toInt?_eq_some_iff.mpr denotes
    revert integral
    decide +kernel
  · intro exact
    have more : Gives "units.parse_bytes" [.string "0.49999999999999999"] (.number (.word 1)) :=
      readBy_parseBytes.gives (by decide +kernel)
    have spells : SpellsDecimal ('0' :: '.' :: '4' :: List.replicate 16 '9') ['0']
        ('4' :: List.replicate 16 '9') :=
      @SpellsDecimal.point ['0'] ('4' :: List.replicate 16 '9') (by decide) (by decide) (by decide)
        (by decide)
    have value : decimalValue ['0'] ('4' :: List.replicate 16 '9') * Factor.value ⟨2, 0⟩ =
        49999999999999999 / 10 ^ 17 := by
      have digits : decimalValue ['0'] ('4' :: List.replicate 16 '9') =
          ((0 : Nat) : ℚ) + ((49999999999999999 : Nat) : ℚ) / 10 ^ 17 := rfl
      rw [digits]
      norm_num [Factor.value]
    obtain ⟨amount, gives, whole, denotes, nearest⟩ := exact _ _ _ [] ⟨2, 0⟩ spells rfl
    cases more.unique gives
    obtain rfl : whole = 1 := denotes.unique (Number.denotes_ofInt 1)
    have closer := nearest.closest 0
    rw [value] at closer
    norm_num [abs_of_nonneg, abs_of_nonpos] at closer

end Rego.Builtin.Conversions
