import Rego.Number.Arithmetic
import Rego.Number.Literal
import Rego.Text.Blank
import Rego.Text.Case

/-!
# Quantities

A quantity is a number with a unit behind it, such as `10K` or `1.5KiB`, perhaps in quotes.  The
unit is what follows the last digit and stands for a power of ten or of two.  Units of resources and
units of bytes are two different tables; amounts of bytes are rounded.
-/

namespace Rego

set_option autoImplicit false

/-- Why a text is no quantity. -/
inductive QuantityError where
  | blank
  | number (text : String)
  | unit (suffix : String)
  | byteUnit (suffix : String)
  | arithmetic (error : ArithmeticError)
  /-- The shift of the number is no machine word; this ends the program. -/
  | shiftOverflow
deriving DecidableEq

/-- The wording of a quantity error. -/
def QuantityError.message : QuantityError → String
  | .blank => "spaces not allowed in resource strings"
  | .number text => "could not parse number \x60" ++ text ++ "\x60"
  | .unit suffix => "unknown unit suffix \x60" ++ suffix ++ "\x60"
  | .byteUnit suffix => "unknown byte unit suffix \x60" ++ suffix ++ "\x60"
  | .arithmetic error => error.message
  | .shiftOverflow => Number.overflowNote

namespace Quantity

/-! ## Parts -/

/-- A text without the quotes around it, if it has them. -/
def unquote (characters : List Char) : List Char :=
  if 2 ≤ characters.length ∧ characters.head? = some '"' ∧ characters.getLast? = some '"' then
    (characters.drop 1).dropLast
  else characters

/-- What follows the last digit, or nothing if there is none. -/
def suffix (characters : List Char) : List Char :=
  if characters.any Radix.isDecimalDigit then
    (characters.reverse.takeWhile fun character => !Radix.isDecimalDigit character).reverse
  else []

/-- What stands up to the last digit, or everything if there is none. -/
def digits (characters : List Char) : List Char :=
  characters.take (characters.length - (suffix characters).length)

/-- The number of a written one, whose zero before the point may be missing. -/
def number (characters : List Char) : Except LiteralError Number :=
  match characters with
  | '.' :: _ => Number.ofText (String.ofList ('0' :: characters))
  | _ => Number.ofText (String.ofList characters)

/-- The number and the unit of a quantity. -/
def read (characters : List Char) : Except QuantityError (Number × List Char) :=
  let content := unquote characters
  if content.any Text.isBlank then .error .blank
  else
    match number (digits content) with
    | .ok number => .ok (number, suffix content)
    | .error .malformed => .error (.number (String.ofList (digits content)))
    | .error .shiftOverflow => .error .shiftOverflow

/-! ## Units -/

/-- A scale factor: a power of ten or of two. -/
structure Factor where
  base : Nat
  exponent : Int

/-- The factors of resource units; the letters of binary units may have either case. -/
def factor? (suffix : List Char) : Option Factor :=
  match String.ofList suffix with
  | "E" | "e" => some ⟨10, 18⟩
  | "P" | "p" => some ⟨10, 15⟩
  | "T" | "t" => some ⟨10, 12⟩
  | "G" | "g" => some ⟨10, 9⟩
  | "M" => some ⟨10, 6⟩
  | "K" | "k" => some ⟨10, 3⟩
  | "m" => some ⟨10, -3⟩
  | "" => some ⟨10, 0⟩
  | _ =>
    match String.ofList (suffix.map Text.lowerBasic) with
    | "ki" => some ⟨2, 10⟩
    | "mi" => some ⟨2, 20⟩
    | "gi" => some ⟨2, 30⟩
    | "ti" => some ⟨2, 40⟩
    | "pi" => some ⟨2, 50⟩
    | "ei" => some ⟨2, 60⟩
    | _ => none

/-- The factors of byte units, in any letter case. -/
def byteFactor? (suffix : List Char) : Option Factor :=
  match String.ofList (suffix.map Text.lowerBasic) with
  | "ei" | "eib" => some ⟨2, 60⟩
  | "pi" | "pib" => some ⟨2, 50⟩
  | "ti" | "tib" => some ⟨2, 40⟩
  | "gi" | "gib" => some ⟨2, 30⟩
  | "mi" | "mib" => some ⟨2, 20⟩
  | "ki" | "kib" => some ⟨2, 10⟩
  | "" => some ⟨2, 0⟩
  | "e" | "eb" => some ⟨10, 18⟩
  | "p" | "pb" => some ⟨10, 15⟩
  | "t" | "tb" => some ⟨10, 12⟩
  | "g" | "gb" => some ⟨10, 9⟩
  | "m" | "mb" => some ⟨10, 6⟩
  | "k" | "kb" => some ⟨10, 3⟩
  | _ => none

/-! ## Amounts -/

/-- A number times a factor. -/
def scale (number : Number) (factor : Factor) : Except ArithmeticError Number := do
  number.mul (← Number.power factor.base factor.exponent)

/-- The amount that a quantity of a resource stands for. -/
def amount (characters : List Char) : Except QuantityError Number := do
  let (number, suffix) ← read characters
  match factor? suffix with
  | some factor => (scale number factor).mapError .arithmetic
  | none => .error (.unit (String.ofList suffix))

/-- The whole number of bytes that a quantity stands for. -/
def bytes (characters : List Char) : Except QuantityError Number := do
  let (number, suffix) ← read characters
  match byteFactor? suffix with
  | some factor => ((scale number factor).mapError .arithmetic).map Number.round
  | none => .error (.byteUnit (String.ofList suffix))

end Quantity

end Rego
