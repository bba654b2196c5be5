import Rego.Double.Decimal
import Rego.Number.Basic
import Rego.Text.Blank

/-!
# Number literals

A literal is an optional sign, a mantissa of decimal digits with at most one point and at least one
digit, and optionally an exponent that fits a signed machine word; white space around it is ignored.
`NumberLiteral.read?` recognises the parts and `NumberLiteral.value` gives the number.

A literal whose value is visibly an integer, with at most a thousand zeros behind its digits, stays
exact; every other literal is the nearest double. Which of the two it is depends on the shift of its
digits.  The reader (`Number.ofText`) counts in machine words and does not survive a shift that is no
machine word; everything that reads numbers reads them through it.
-/

namespace Rego

set_option autoImplicit false

open scoped Rego.Power

/-- The parts of a number literal. -/
structure NumberLiteral where
  negative : Bool
  whole : List Char
  fraction : List Char
  exponent : Int
deriving DecidableEq

namespace NumberLiteral

/-- Splits off one leading sign and tells whether it is a minus. -/
def splitSign : List Char → Bool × List Char
  | '-' :: rest => (true, rest)
  | '+' :: rest => (false, rest)
  | characters => (false, characters)

/-- Whether a list is made of decimal digits only. -/
def allDigits (characters : List Char) : Bool := characters.all Radix.isDecimalDigit

/-- Reads an exponent: an optional sign and digits whose value fits a signed machine word. -/
def readExponent? (characters : List Char) : Option Int :=
  let (negative, digits) := splitSign characters
  let value := Double.signed negative (Radix.decimalValue digits)
  if digits ≠ [] ∧ allDigits digits ∧ Number.FitsWord value then some value else none

/-- Whether a character starts an exponent. -/
def isExponentMark (character : Char) : Bool := character == 'e' || character == 'E'

/-- Splits the unsigned part of a literal into mantissa and exponent. -/
def splitExponent? (characters : List Char) : Option (List Char × Int) :=
  let mantissa := characters.takeWhile (fun character => !isExponentMark character)
  match characters.dropWhile (fun character => !isExponentMark character) with
  | [] => some (mantissa, 0)
  | _ :: exponent => (readExponent? exponent).map fun value => (mantissa, value)

/-- Splits a mantissa at its first point. -/
def splitPoint (mantissa : List Char) : List Char × List Char :=
  (mantissa.takeWhile (· != '.'), (mantissa.dropWhile (· != '.')).drop 1)

/-- Reads a literal without white space around it. -/
def readTrimmed? (characters : List Char) : Option NumberLiteral := do
  let (negative, unsigned) := splitSign characters
  let (mantissa, exponent) ← splitExponent? unsigned
  let (whole, fraction) := splitPoint mantissa
  if (whole ≠ [] ∨ fraction ≠ []) ∧ allDigits whole ∧ allDigits fraction then
    some ⟨negative, whole, fraction, exponent⟩
  else none

/-- Reads a literal, ignoring white space at both ends. -/
def read? (characters : List Char) : Option NumberLiteral :=
  readTrimmed? (Text.trimWhile Text.isBlank characters)

/-- The fraction without its trailing zeros. -/
def shortFraction (literal : NumberLiteral) : List Char :=
  Text.dropEndWhile (· == '0') literal.fraction

/-- The number that all significant digits spell. -/
def significand (literal : NumberLiteral) : Nat :=
  Radix.decimalValue (literal.whole ++ literal.shortFraction)

/-- The power of ten that scales the significand to the value. -/
def shift (literal : NumberLiteral) : Int :=
  literal.exponent - (literal.shortFraction.length : Int)

/-- The number of a literal. -/
def value (literal : NumberLiteral) : Number :=
  if 0 ≤ literal.shift ∧ literal.shift ≤ 1000 then
    Number.ofInt (Double.signed literal.negative (literal.significand * 10 ^ literal.shift.toNat))
  else .float (Double.ofDecimal literal.negative literal.significand literal.shift)

end NumberLiteral

/-- Why reading a text gives no number. -/
inductive LiteralError where
  /-- The text is no literal. -/
  | malformed
  /-- The shift is no machine word; this ends not only the reading but the program. -/
  | shiftOverflow
deriving DecidableEq

/-- The wording of a literal error. -/
def LiteralError.message : LiteralError → String
  | .malformed => "invalid number literal"
  | .shiftOverflow => Number.overflowNote

/-- Reads a number literal, with the shift as a machine word. -/
def Number.ofText (text : String) : Except LiteralError Number :=
  match NumberLiteral.read? text.toList with
  | none => .error .malformed
  | some literal => if FitsWord literal.shift then .ok literal.value else .error .shiftOverflow

/-- The number that a text is read as, if it is read as one. -/
def Number.ofText? (text : String) : Option Number := (Number.ofText text).toOption

end Rego
