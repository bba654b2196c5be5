import Rego.Number.Basic
import Rego.Number.Bits

/-!
# Arithmetic on numbers

Integers are added, subtracted and multiplied exactly, as words if the result is one and as big
integers otherwise.  As soon as a double takes part the operation is the rounded one on doubles, and
a result that is no finite double is an overflow.  Division of integers is exact when it leaves no
remainder and otherwise goes through doubles; the remainder has the sign of the dividend.
-/

namespace Rego

set_option autoImplicit false

open scoped Rego.Power

/-- Why an arithmetic operation has no result. -/
inductive ArithmeticError where
  | divideByZero
  | moduloByZero
  | moduloOnFraction
  | overflow
deriving DecidableEq

/-- The wording of an arithmetic error. -/
def ArithmeticError.message : ArithmeticError → String
  | .divideByZero => "divide by zero"
  | .moduloByZero => "modulo by zero"
  | .moduloOnFraction => "modulo on floating-point number"
  | .overflow => "number overflow"

namespace Number

/-- The number of a computed double, which must be finite. -/
def ofFinite (value : Double) : Except ArithmeticError Number :=
  if value.isFinite then .ok (ofDouble value) else .error .overflow

/-- What an operation on words gives, unless its exact result is no word. -/
def checked? (exact : Int) (wrapped : Int64) : Option Int64 :=
  if FitsWord exact then some wrapped else none

/-- An operation on integers, with its counterparts on words, which wrap around, and on doubles,
which round. -/
structure Operation where
  exact : Int → Int → Int
  wrapping : Int64 → Int64 → Int64
  rounded : Double → Double → Double
  wraps : ∀ left right : Int64,
    (wrapping left right).toInt = (exact left.toInt right.toInt).bmod (2 ^ (64 : Nat))

namespace Operation

/-- Addition. -/
def addition : Operation := ⟨(· + ·), (· + ·), Double.add, Int64.toInt_add⟩

/-- Subtraction. -/
def subtraction : Operation := ⟨(· - ·), (· - ·), Double.sub, Int64.toInt_sub⟩

/-- Multiplication. -/
def multiplication : Operation := ⟨(· * ·), (· * ·), Double.mul, Int64.toInt_mul⟩

/-- The result on two words, if it is one. -/
def onWords? (operation : Operation) : Number → Number → Option Int64
  | .word left, .word right =>
    checked? (operation.exact left.toInt right.toInt) (operation.wrapping left right)
  | _, _ => none

/-- Applies an operation to two words or else to two integers, and rounds on any other pair. -/
def apply (operation : Operation) (left right : Number) : Except ArithmeticError Number :=
  match left.integer?, right.integer? with
  | some leftWhole, some rightWhole =>
    .ok ((operation.onWords? left right).elim (ofInt (operation.exact leftWhole rightWhole)) .word)
  | _, _ => ofFinite (operation.rounded left.toDouble right.toDouble)

end Operation

/-- The sum. -/
def add : Number → Number → Except ArithmeticError Number := Operation.addition.apply

/-- The difference. -/
def sub : Number → Number → Except ArithmeticError Number := Operation.subtraction.apply

/-- The product. -/
def mul : Number → Number → Except ArithmeticError Number := Operation.multiplication.apply

/-- The quotient: exact for integers without remainder, else that of the nearest doubles. -/
def divide (left right : Number) : Except ArithmeticError Number :=
  if right.isZero then .error .divideByZero
  else
    let rounded := ofFinite (left.toDouble.div right.toDouble)
    match left.integer?, right.integer? with
    | some leftWhole, some rightWhole =>
      if leftWhole.tmod rightWhole = 0 then .ok (ofInt (leftWhole.tdiv rightWhole)) else rounded
    | _, _ => rounded

/-- The remainder of two integers, with the sign of the dividend. -/
def modulo (left right : Number) : Except ArithmeticError Number :=
  if right.isZero then .error .moduloByZero
  else
    match left.toInt?, right.toInt? with
    | some leftWhole, some rightWhole => .ok (ofInt (leftWhole.tmod rightWhole))
    | _, _ => .error .moduloOnFraction

/-! ## Magnitude and rounding -/

/-- The magnitude. -/
def abs : Number → Number
  | .word value =>
    (checked? value.toInt.natAbs value.abs).elim (ofInt value.toInt.natAbs) .word
  | .big value => ofInt value.natAbs
  | .float value => .float value.abs

/-- Rounds a double by a rule that gives an integer for every finite one; small integers become
integers and all other whole doubles stay what they are. -/
def roundWith (rule : Double → Option Int) : Number → Number
  | .float value =>
    match rule value with
    | some whole => if whole.natAbs < exactDoubleBound then ofInt whole else .float value
    | none => .float value
  | number => number

/-- The greatest integer not above a number. -/
def floor : Number → Number := roundWith Double.floor?

/-- The least integer not below a number. -/
def ceil : Number → Number := roundWith Double.ceil?

/-- The nearest integer, halves away from zero. -/
def round : Number → Number := roundWith Double.round?

/-- The integer part. -/
def trunc : Number → Number := roundWith Double.trunc?

/-! ## Bits -/

/-- Applies a bit operation to two numbers of integral value. -/
def liftBits (operation : Int → Int → Int) (left right : Number) : Option Number := do
  let leftWhole ← left.toInt?
  let rightWhole ← right.toInt?
  return ofInt (operation leftWhole rightWhole)

/-- Bitwise conjunction. -/
def and : Number → Number → Option Number := liftBits Bits.and

/-- Bitwise disjunction. -/
def or : Number → Number → Option Number := liftBits Bits.or

/-- Bitwise exclusive disjunction. -/
def xor : Number → Number → Option Number := liftBits Bits.xor

/-- Bitwise complement. -/
def complement (number : Number) : Option Number :=
  number.toInt?.map fun whole => ofInt (Bits.complement whole)

/-- The shift amount a number denotes, when it is a natural number below `2 ^ 32`. -/
def shiftAmount? (number : Number) : Option Nat :=
  number.toUnsigned?.filter (fun amount => decide (amount < 2 ^ (32 : Nat)))

/-- Shifts bits up. -/
def shiftLeft (number amount : Number) : Option Number := do
  let places ← amount.shiftAmount?
  let whole ← number.toInt?
  return ofInt (Bits.shiftLeft whole places)

/-- Shifts bits down. -/
def shiftRight (number amount : Number) : Option Number := do
  let places ← amount.shiftAmount?
  let whole ← number.toInt?
  return ofInt (Bits.shiftRight whole places)

/-! ## Powers -/

/-- A power of a base with an integer exponent; negative exponents give the quotient of one. -/
def power (base : Nat) (exponent : Int) : Except ArithmeticError Number :=
  let magnitude := ofNat (base ^ exponent.natAbs)
  if 0 ≤ exponent then .ok magnitude else (ofInt 1).divide magnitude

end Number

end Rego
