import Rego.Double.Decimal
import Rego.Number.Arithmetic

/-!
# Written forms of numbers

Integers are written in full, doubles with the fewest digits that read back and never with an
exponent.  The interchange form differs from the plain one on whole doubles only, which it writes as
the integers they are; it exists for finite numbers.
-/

namespace Rego.Number

set_option autoImplicit false

/-- The text of an integer in a radix, after dropping any fraction; none for a NaN or an
infinity. -/
def radixText? (radix : Nat) (number : Number) : Option String :=
  number.trunc.toInt?.map fun whole => String.ofList (Radix.integerText radix whole)

/-- The plain decimal text. -/
def text : Number → String
  | .word value => String.ofList (Radix.integerText 10 value.toInt)
  | .big value => String.ofList (Radix.integerText 10 value)
  | .float value => String.ofList value.text

/-- The text of the nearest double with exactly `places` digits after the point. -/
def fixedText (places : Nat) (number : Number) : String :=
  String.ofList (number.toDouble.fixedText places)

/-- The text of a number in interchange documents, where whole doubles have their integer digits. -/
def plainText (number : Number) : String :=
  match number.toInt? with
  | some whole => String.ofList (Radix.integerText 10 whole)
  | none => number.text

end Rego.Number
