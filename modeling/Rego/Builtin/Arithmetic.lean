import Rego.Builtin.Declared.Arithmetic
import Rego.Builtin.Implementation
import Rego.Value.Collection

/-!
# Builtins on numbers

Arithmetic, rounding, bit operations, totals and ranges.  Subtraction is shared with sets, of which
it gives the difference.
-/

namespace Rego.Builtin.Arithmetic

set_option autoImplicit false

/-- The outcome of an arithmetic operation. -/
def outcome (name : String) : Except ArithmeticError Number → Outcome
  | .ok number => .ok (.number number)
  | .error error => failed name (.arithmetic error)

/-- Applies an operation to two numbers. -/
def combine (name : String) (operation : Number → Number → Except ArithmeticError Number)
    (left right : Value) : Outcome := do
  let left ← Argument.number name left
  let right ← Argument.number name right
  outcome name (operation left right)

/-- The difference of two numbers or of two sets. -/
def minus (name : String) (left right : Value) : Outcome :=
  match left, right with
  | .set leftMembers, .set rightMembers =>
    .ok (.set (Members.difference leftMembers rightMembers))
  | .set _, other => failed name (.notBothSets other)
  | other, .set _ => failed name (.notBothSets other)
  | left, right => combine name Number.sub left right

/-- Applies an operation to a number. -/
def transform (name : String) (operation : Number → Number) (argument : Value) : Outcome := do
  return .number (operation (← Argument.number name argument))

/-! ## Bits -/

/-- A number of integral value. -/
def integral (name : String) (argument : Value) : Except BuiltinError Number := do
  let number ← Argument.number name argument
  if number.isInteger then return number else failed name (.wrongKind .integer argument)

/-- A number of integral value that is not negative. -/
def places (name : String) (argument : Value) : Except BuiltinError Number := do
  let number ← integral name argument
  if number.isNegative then failed name (.negativeShift argument) else return number

/-- Applies a bit operation to two numbers, the second of which is read as told. -/
def combineBits (name : String) (readSecond : String → Value → Except BuiltinError Number)
    (operation : Number → Number → Option Number) (left right : Value) : Outcome := do
  let left ← integral name left
  let right ← readSecond name right
  match operation left right with
  | some number => return .number number
  | none => failed name (.bitsUndefined left right)

/-- The bitwise complement. -/
def negate (name : String) (argument : Value) : Outcome := do
  let number ← integral name argument
  match number.complement with
  | some complement => return .number complement
  | none => failed name (.wrongKind .integer argument)

/-! ## Totals -/

/-- The elements of an array or a set. -/
def elements (name : String) : Value → Except BuiltinError (List Value)
  | .array items => .ok items
  | .set members => .ok members
  | other => failed name (.notCollection other)

/-- Combines numbers from the left, starting with a given one. -/
def total (name : String) (operation : Number → Number → Except ArithmeticError Number) :
    Number → List Value → Outcome
  | running, [] => .ok (.number running)
  | running, item :: rest => do
    let number ← Argument.number name item
    match operation running number with
    | .ok next => total name operation next rest
    | .error error => failed name (.arithmetic error)

/-! ## Ranges -/

/-- A step of a positive size. -/
structure Step where
  size : Int
  positive : 0 < size

/-- The two ways from a start to a stop. -/
inductive Direction where
  | upward
  | downward

namespace Direction

/-- Whether a value has not passed a stop. -/
def within (direction : Direction) (stop value : Int) : Bool :=
  match direction with
  | .upward => value ≤ stop
  | .downward => stop ≤ value

/-- The value one step further. -/
def further (direction : Direction) (step : Step) (value : Int) : Int :=
  match direction with
  | .upward => value + step.size
  | .downward => value - step.size

/-- How many integers there are from a value to a stop. -/
def distance (direction : Direction) (stop value : Int) : Nat :=
  match direction with
  | .upward => (stop + 1 - value).toNat
  | .downward => (value + 1 - stop).toNat

theorem distance_further_lt {direction : Direction} {stop value : Int} (step : Step)
    (inside : direction.within stop value = true) :
    direction.distance stop (direction.further step value) < direction.distance stop value := by
  have := step.positive
  cases direction <;> simp only [within, further, distance, decide_eq_true_eq] at inside ⊢ <;>
    omega

end Direction

/-- Adds the values that have not passed a stop, a step apart, to those passed before, which are
listed from the last to the first.  A step out of the words ends the walk. -/
def walk (direction : Direction) (step : Step) (stop : Int) (passed : List Int) (value : Int) :
    List Int :=
  if inside : direction.within stop value then
    have _closer := direction.distance_further_lt step inside
    if Number.FitsWord (direction.further step value) then
      walk direction step stop (value :: passed) (direction.further step value)
    else (value :: passed).reverse
  else passed.reverse
termination_by direction.distance stop value

/-- The integers from a start to a stop, both included if they are reached, in steps. -/
def progression (start stop : Int) (step : Step) : List Int :=
  walk (if start ≤ stop then .upward else .downward) step stop [] start

/-- The array of a progression. -/
def rangeValue (start stop : Int) (step : Step) : Value :=
  .array ((progression start stop step).map Value.ofInt)

/-- All integers between two. -/
def range (name : String) (start stop : Value) : Outcome := do
  let start ← Argument.integer name start
  let stop ← Argument.integer name stop
  return rangeValue start stop ⟨1, Int.one_pos⟩

/-- The integers between two in steps. -/
def rangeStep (name : String) (start stop step : Value) : Outcome := do
  let start ← Argument.integer name start
  let stop ← Argument.integer name stop
  let step ← Argument.integer name step
  if positive : 0 < step then return rangeValue start stop ⟨step, positive⟩
  else failed name (.stepNotPositive step)

/-- The builtins on numbers. -/
def builtins : List Builtin := [
  unary Declared.abs fun name => transform name Number.abs,
  unary Declared.ceil fun name => transform name Number.ceil,
  unary Declared.floor fun name => transform name Number.floor,
  unary Declared.round fun name => transform name Number.round,
  binary Declared.plus fun name => combine name Number.add,
  binary Declared.minus minus,
  binary Declared.mul fun name => combine name Number.mul,
  binary Declared.div fun name => combine name Number.divide,
  binary Declared.rem fun name => combine name Number.modulo,
  binary Declared.bitsAnd fun name => combineBits name integral Number.and,
  binary Declared.bitsOr fun name => combineBits name integral Number.or,
  binary Declared.bitsXor fun name => combineBits name integral Number.xor,
  binary Declared.bitsLsh fun name => combineBits name places Number.shiftLeft,
  binary Declared.bitsRsh fun name => combineBits name places Number.shiftRight,
  unary Declared.bitsNegate negate,
  unary Declared.sum fun name argument => do
    total name Number.add (.ofNat 0) (← elements name argument),
  unary Declared.product fun name argument => do
    total name Number.mul (.ofNat 1) (← elements name argument),
  binary Declared.numbersRange range,
  ternary Declared.numbersRangeStep rangeStep]

end Rego.Builtin.Arithmetic
