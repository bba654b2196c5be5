import Rego.Double.Rounding
import Rego.Text.Radix

/-!
# Decimal forms of doubles

A decimal is a natural number scaled by a power of ten.  Reading rounds the exact decimal value to
the nearest double.  Writing has three forms: the shortest digits that read back as the same double,
a fixed number of places after the point, and a fixed number of digits with an exponent; the last
two round the exact binary value with ties to even.

The shortest digits come from the interval of reals that round to the double, whose ends belong to
it exactly when the significand is even.  For one digit, two digits, and so on, the two neighbours
of the value on that decimal grid are tested; the first grid with a neighbour in the interval
decides.
-/

namespace Rego

set_option autoImplicit false

open scoped Rego.Power

/-- A decimal value `digits * 10 ^ exponent`. -/
structure Decimal where
  digits : Nat
  exponent : Int
deriving DecidableEq

namespace Decimal

/-- How many decimal digits a number has; zero has one. -/
def length (number : Nat) : Nat := (Radix.digits 10 number).length

/-- Moves trailing zeros from the digits to the exponent. -/
def strip (digits : Nat) (exponent : Int) : Decimal :=
  if digits = 0 ∨ digits % 10 ≠ 0 then ⟨digits, exponent⟩
  else strip (digits / 10) (exponent + 1)
termination_by digits
decreasing_by
  exact Nat.div_lt_self (by omega) (by omega)

/-- Positional text of `digits * 10 ^ (-places)`, with at least one digit before the point and
no point when there are no places. -/
def positional (digits places : Nat) : List Char :=
  if places = 0 then Radix.digits 10 digits
  else
    let fraction := Radix.digits 10 (digits % 10 ^ places)
    Radix.digits 10 (digits / 10 ^ places) ++
      '.' :: (List.replicate (places - fraction.length) '0' ++ fraction)

/-- Positional text of a decimal, never with an exponent. -/
def text (decimal : Decimal) : List Char :=
  match decimal.exponent with
  | .ofNat zeros => positional (decimal.digits * 10 ^ zeros) 0
  | .negSucc places => positional decimal.digits (places + 1)

end Decimal

namespace Double

/-- The double nearest to `digits * 10 ^ exponent`.  Values at or above `10 ^ 309` are infinite and
values below `10 ^ -324` are zero, so huge exponents never become huge numbers. -/
def ofDecimal (negative : Bool) (digits : Nat) (exponent : Int) : Double :=
  let top := exponent + (Decimal.length digits : Int)
  if digits = 0 then signedZero negative
  else if 310 ≤ top then .infinite negative
  else if top ≤ -324 then signedZero negative
  else
    match exponent with
    | .ofNat zeros => ofRatio negative (digits * 10 ^ zeros) 1
    | .negSucc places => ofRatio negative digits (10 ^ (places + 1))

/-! ## Shortest digits -/

/-- The numerator and denominator that express a magnitude in multiples of `10 ^ exponent`, when
the magnitude is given as a number of fractions of one, `perOne` of them making one. -/
def scaledBy (magnitude perOne : Nat) (exponent : Int) : Nat × Nat :=
  match exponent with
  | .ofNat power => (magnitude, perOne * 10 ^ power)
  | .negSucc power => (magnitude * 10 ^ (power + 1), perOne)

/-- Whether `multiple * 10 ^ exponent` rounds to the double of a given rank. -/
def roundsToRank (rank : Nat) (exponent : Int) (multiple : Nat) : Bool :=
  let low := scaledBy (unitsOfRank (rank - 1) + unitsOfRank rank) (2 * unitsPerOne) exponent
  let high := scaledBy (unitsOfRank rank + unitsOfRank (rank + 1)) (2 * unitsPerOne) exponent
  if rank % 2 = 0 then low.1 ≤ multiple * low.2 && multiple * high.2 ≤ high.1
  else low.1 < multiple * low.2 && multiple * high.2 < high.1

/-- The multiple of `10 ^ exponent` next to the magnitude of a rank that rounds to it; of two the
nearer, and the upper one when both are equally near. -/
def neighbour? (rank : Nat) (exponent : Int) : Option Nat :=
  let (numerator, denominator) := scaledBy (unitsOfRank rank) unitsPerOne exponent
  let lower := numerator / denominator
  match roundsToRank rank exponent lower, roundsToRank rank exponent (lower + 1) with
  | true, true => some (if 2 * (numerator % denominator) < denominator then lower else lower + 1)
  | true, false => some lower
  | false, true => some (lower + 1)
  | false, false => none

/-- The exponent of the leading decimal digit of a nonzero magnitude. -/
def leadingExponent (rank : Nat) : Int :=
  (Decimal.length (unitsOfRank rank * 10 ^ (400 : Nat) / unitsPerOne) : Int) - 401

/-- The shortest decimal that reads back as the magnitude of a nonzero rank. -/
def shortestOfRank (rank : Nat) : Decimal :=
  let leading := leadingExponent rank
  let found := (List.range 17).findSome? fun (extra : Nat) =>
    (neighbour? rank (leading - extra)).map fun digits =>
      Decimal.strip digits (leading - extra)
  found.getD ⟨unitsOfRank rank, 0⟩

/-- The shortest decimal that reads back as the magnitude of a rank. -/
def shortest (rank : Nat) : Decimal := if rank = 0 then ⟨0, 0⟩ else shortestOfRank rank

/-- Puts the minus sign of a negative double in front of its magnitude's text. -/
def withSign (negative : Bool) (magnitude : List Char) : List Char :=
  if negative then '-' :: magnitude else magnitude

/-- Shortest positional text: no exponent, and no point on whole values. -/
def text : Double → List Char
  | .notNumber _ _ => "NaN".toList
  | .infinite negative => withSign negative "inf".toList
  | .finite negative rank => withSign negative (shortest rank).text

/-- Shortest text with a point or an exponent: the point stands among or right after the digits
while the leading digit is worth between `10 ^ -5` and `10 ^ 15`, and any other magnitude has one
digit before the point and an exponent with a sign. -/
def pointText : Double → List Char
  | .notNumber _ _ => "NaN".toList
  | .infinite negative => withSign negative "inf".toList
  | .finite negative rank =>
    let decimal := shortest rank
    let digits := Radix.digits 10 decimal.digits
    let top := decimal.exponent + (digits.length : Int)
    withSign negative <|
      if 0 ≤ decimal.exponent ∧ top ≤ 16 then decimal.text ++ ['.', '0']
      else if -5 < top ∧ top ≤ 16 then decimal.text
      else
        let mantissa :=
          match digits with
          | first :: second :: rest => first :: '.' :: second :: rest
          | short => short
        let exponent := Radix.integerText 10 (top - 1)
        mantissa ++ 'e' :: (if top ≤ 0 then exponent else '+' :: exponent)

/-! ## Fixed numbers of digits -/

/-- Text with exactly `places` digits after the point. -/
def fixedText (places : Nat) : Double → List Char
  | .notNumber _ _ => "NaN".toList
  | .infinite negative => withSign negative "inf".toList
  | .finite negative rank =>
    withSign negative <| Decimal.positional
      (roundHalfEven (unitsOfRank rank * 10 ^ places) unitsPerOne) places

/-- The magnitude of a rank rounded to `places + 1` significant digits. -/
def significant (places rank : Nat) : Decimal :=
  if rank = 0 then ⟨0, 0⟩
  else
    let exponent := leadingExponent rank - places
    let (numerator, denominator) := scaledBy (unitsOfRank rank) unitsPerOne exponent
    let digits := roundHalfEven numerator denominator
    if digits = 10 ^ (places + 1) then ⟨digits / 10, exponent + 1⟩ else ⟨digits, exponent⟩

end Double

end Rego
