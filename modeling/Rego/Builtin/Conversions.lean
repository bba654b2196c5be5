import Rego.Builtin.Declared.Conversions
import Rego.Builtin.Implementation
import Rego.Value.Json

/-!
# Builtins on kinds of values

Tests for the kind of a value, its name, and the numbers that texts stand for.
-/

namespace Rego.Builtin.Conversions

set_option autoImplicit false

/-- The number that a text spells in a document. -/
def numberOfText (name text : String) : Except BuiltinError Number :=
  match Value.decodeText text with
  | .ok (.number number) => .ok number
  | .error .shiftOverflow => aborted name .shiftOverflow
  | _ => failed name (.notNumberText text)

/-- The number that a value stands for. -/
def toNumber (name : String) : Value → Outcome
  | .null => .ok (.ofNat 0)
  | .bool true => .ok (.ofNat 1)
  | .bool false => .ok (.ofNat 0)
  | .number number => .ok (.number number)
  | .string text => do return .number (← numberOfText name text)
  | _ => failed name .notConvertible

/-- Whether a value is of a kind. -/
def isKind (kind : Value.Kind) (value : Value) : Outcome := .ok (.bool (value.kind == kind))

/-- The amount of a quantity. -/
def amount (read : List Char → Except QuantityError Number) (name : String) (argument : Value) :
    Outcome := do
  let text ← Argument.string name argument
  match read text.toList with
  | .ok number => return .number number
  | .error .shiftOverflow => aborted name .shiftOverflow
  | .error error => failed name (.notQuantity error)

/-- The builtins on kinds of values. -/
def builtins : List Builtin := [
  unary Declared.toNumber toNumber,
  unary Declared.isArray fun _ => isKind .array,
  unary Declared.isBoolean fun _ => isKind .boolean,
  unary Declared.isNull fun _ => isKind .null,
  unary Declared.isNumber fun _ => isKind .number,
  unary Declared.isObject fun _ => isKind .object,
  unary Declared.isSet fun _ => isKind .set,
  unary Declared.isString fun _ => isKind .string,
  unary Declared.typeName fun _ value => .ok (.string value.kind.name),
  unary Declared.unitsParse (amount Quantity.amount),
  unary Declared.unitsParseBytes (amount Quantity.bytes)]

end Rego.Builtin.Conversions
