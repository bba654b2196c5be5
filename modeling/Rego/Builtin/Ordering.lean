import Rego.Builtin.Declared.Ordering
import Rego.Builtin.Implementation

/-!
# Builtins on the order of values

Comparisons, least and greatest elements, and sorting, all by `Value.compare`.
-/

namespace Rego.Builtin.Ordering

set_option autoImplicit false

/-- The relations between two values that a policy can ask for. -/
inductive Comparison where
  | equal
  | unequal
  | less
  | lessOrEqual
  | greater
  | greaterOrEqual
deriving DecidableEq

/-- Whether two values stand in a relation. -/
def Comparison.holds : Comparison → Value → Value → Bool
  | .equal, left, right => left.equals right
  | .unequal, left, right => !left.equals right
  | .less, left, right => left.compare right == .lt
  | .lessOrEqual, left, right => left.compare right != .gt
  | .greater, left, right => left.compare right == .gt
  | .greaterOrEqual, left, right => left.compare right != .lt

/-- Tells whether two values stand in a relation. -/
def comparison (relation : Comparison) (left right : Value) : Outcome :=
  .ok (.bool (relation.holds left right))

/-- The greatest value, the last of equal ones; undefined when there are none. -/
def greatest : List Value → Value
  | [] => .undefined
  | first :: rest =>
    rest.foldl (fun best item => if best.compare item == .gt then best else item) first

/-- The least value, the first of equal ones; undefined when there are none. -/
def least : List Value → Value
  | [] => .undefined
  | first :: rest =>
    rest.foldl (fun best item => if best.compare item == .gt then item else best) first

/-- The values in ascending order, equal ones as they stood. -/
def sorted (values : List Value) : List Value :=
  values.mergeSort fun left right => left.compare right != .gt

/-- The greatest element of an array or a set. -/
def max (name : String) : Value → Outcome
  | .array items => .ok (greatest items)
  | .set members => .ok (members.getLast?.getD .undefined)
  | other => failed name (.notCollection other)

/-- The least element of an array or a set. -/
def min (name : String) : Value → Outcome
  | .array items => .ok (least items)
  | .set members => .ok (members.head?.getD .undefined)
  | other => failed name (.notCollection other)

/-- The elements of an array or a set as a sorted array. -/
def sort (name : String) : Value → Outcome
  | .array items => .ok (.array (sorted items))
  | .set members => .ok (.array members)
  | other => failed name (.notCollection other)

/-- The builtins on the order of values. -/
def builtins : List Builtin := [
  binary Declared.equal fun _ => comparison .equal,
  binary Declared.neq fun _ => comparison .unequal,
  binary Declared.lt fun _ => comparison .less,
  binary Declared.lte fun _ => comparison .lessOrEqual,
  binary Declared.gt fun _ => comparison .greater,
  binary Declared.gte fun _ => comparison .greaterOrEqual,
  unary Declared.max max,
  unary Declared.min min,
  unary Declared.sort sort]

end Rego.Builtin.Ordering
