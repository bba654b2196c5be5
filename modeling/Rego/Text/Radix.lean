/-!
# Natural numbers in a radix

Digit characters run through `0` to `9` and then the lower-case letters, so radixes up to thirty-six
have a written form.  `digits` writes a natural number without leading zeros, and `decimalValue`
reads decimal digits back.
-/

namespace Rego.Radix

set_option autoImplicit false

/-- The character of a digit below thirty-six. -/
def digitChar (digit : Nat) : Char :=
  if digit < 10 then Char.ofNat (48 + digit) else Char.ofNat (87 + digit)

/-- The digit that a lower-case or upper-case digit character stands for. -/
def digitValue? (character : Char) : Option Nat :=
  let code := character.toNat
  if 48 ≤ code ∧ code < 58 then some (code - 48)
  else if 97 ≤ code ∧ code < 123 then some (code - 87)
  else if 65 ≤ code ∧ code < 91 then some (code - 55)
  else none

/-- The digits of a number in front of an already written tail. -/
def digitsOnto (radix number : Nat) (tail : List Char) : List Char :=
  if number < radix ∨ radix < 2 then digitChar number :: tail
  else digitsOnto radix (number / radix) (digitChar (number % radix) :: tail)
termination_by number
decreasing_by
  exact Nat.div_lt_self (by omega) (by omega)

/-- The digits of a number, most significant first, without leading zeros. -/
def digits (radix number : Nat) : List Char := digitsOnto radix number []

/-- The text of an integer in a radix, with a leading minus sign below zero. -/
def integerText (radix : Nat) (number : Int) : List Char :=
  if number < 0 then '-' :: digits radix number.natAbs else digits radix number.natAbs

/-- One of the ten decimal digit characters. -/
def isDecimalDigit (character : Char) : Bool := 48 ≤ character.toNat && character.toNat < 58

/-- The number that a list of decimal digit characters spells, after a given leading part. -/
def decimalValueFrom (leading : Nat) : List Char → Nat
  | [] => leading
  | character :: rest => decimalValueFrom (leading * 10 + (character.toNat - 48)) rest

/-- The number that a list of decimal digit characters spells. -/
def decimalValue (characters : List Char) : Nat := decimalValueFrom 0 characters

end Rego.Radix
