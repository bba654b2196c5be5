import Rego.Builtin.Declared.Collections
import Rego.Builtin.Implementation
import Rego.Value.Union

/-!
# Builtins on arrays, objects and sets

Sizes, membership, slices, lookups along a path of keys, and the unions and intersections of objects
and sets.
-/

namespace Rego.Builtin.Collections

set_option autoImplicit false

/-- The size of a container, or the number of characters of a string. -/
def count (name : String) : Value → Outcome
  | .array items => .ok (.ofNat items.length)
  | .set members => .ok (.ofNat members.length)
  | .object fields => .ok (.ofNat fields.length)
  | .string text => .ok (.ofNat text.length)
  | other => failed name (.notCountable other)

/-! ## Membership -/

/-- Whether a container holds a value; nothing else holds any. -/
def holds (value : Value) : Value → Bool
  | .array items => items.any fun item => item.equals value
  | .set members => Members.contains value members
  | .object fields => fields.any fun field => field.2.equals value
  | _ => false

/-- Whether an array or an object holds a value at a key. -/
def holdsAt (key value : Value) : Value → Bool
  | .array items =>
    match key with
    | .number position =>
      match position.toUnsigned?.bind fun index => items[index]? with
      | some item => item.equals value
      | none => false
    | _ => false
  | .object fields =>
    match Fields.get? key fields with
    | some item => item.equals value
    | none => false
  | _ => false

/-! ## Arrays -/

/-- The items of two arrays, one after the other. -/
def concat (name : String) (left right : Value) : Outcome := do
  let left ← Argument.array name left
  let right ← Argument.array name right
  return .array (left ++ right)

/-- The items of an array from last to first. -/
def reverse (name : String) (array : Value) : Outcome := do
  return .array (← Argument.array name array).reverse

/-- The position between zero and a length that a number stands for: nothing below zero, and the
length for whatever does not lie in front of it. -/
def clampPosition (length : Nat) (number : Number) : Nat :=
  if number.isNegative then 0
  else
    match number.trunc.toUnsigned? with
    | some position => min position length
    | none => length

/-- The items of an array from one position up to another. -/
def slice (name : String) (array start stop : Value) : Outcome := do
  let items ← Argument.array name array
  let start ← Argument.number name start
  let stop ← Argument.number name stop
  let first := clampPosition items.length start
  let last := clampPosition items.length stop
  return .array ((items.take last).drop first)

/-! ## Objects -/

/-- What is reached from a value along a path of keys. -/
def reach (value : Value) (path : List Value) : Value := path.foldl Value.lookup value

/-- What an object holds at a key, or along an array of keys; a default when that is nothing. -/
def get (name : String) (object key fallback : Value) : Outcome := do
  let fields ← Argument.object name object
  match key with
  | .array path =>
    let found := reach object path
    return if found.isUndefined then fallback else found
  | key => return (Fields.get? key fields).getD fallback

/-- The set of the keys of an object. -/
def keys (name : String) (object : Value) : Outcome := do
  return .set ((← Argument.object name object).map Prod.fst)

/-- The union of two objects. -/
def objectUnion (name : String) (left right : Value) : Outcome := do
  let _ ← Argument.object name left
  let _ ← Argument.object name right
  return left.union right

/-- The union of a value with items, the first of which has a given index; they must be objects. -/
def unionItems (name : String) (index : Nat) (merged : Value) : List Value → Outcome
  | [] => .ok merged
  | .object fields :: rest => unionItems name (index + 1) (merged.union (.object fields)) rest
  | _ :: _ => failed name (.notObjectItem index)

/-- The union of an array of objects. -/
def objectUnionAll (name : String) (array : Value) : Outcome := do
  unionItems name 0 (.object []) (← Argument.array name array)

/-! ## Sets -/

/-- Combines the members of two sets. -/
def combine (name : String) (operation : List Value → List Value → List Value)
    (left right : Value) : Outcome := do
  let left ← Argument.set name left
  let right ← Argument.set name right
  return .set (operation left right)

/-- The intersection of two sets. -/
def intersection : Value → Value → Outcome := combine "intersection" Members.intersection

/-- The union of two sets. -/
def union : Value → Value → Outcome := combine "union" Members.union

/-- The members of each of several sets, which come from one argument. -/
def memberLists (name : String) (argument : Value) :
    List Value → Except BuiltinError (List (List Value))
  | [] => .ok []
  | .set members :: rest => do
    let others ← memberLists name argument rest
    return members :: others
  | _ :: _ => failed name (.notSetOfSets argument)

/-- Combines the members of all sets in a set. -/
def combineAll (operation : List (List Value) → List Value) (name : String) (argument : Value) :
    Outcome := do
  let sets ← Argument.set name argument
  return .set (operation (← memberLists name argument sets))

/-- The builtins on arrays, objects and sets. -/
def builtins : List Builtin := [
  unary Declared.count count,
  binary Declared.internalMember2 fun _ value container => .ok (.bool (holds value container)),
  ternary Declared.internalMember3 fun _ key value container =>
    .ok (.bool (holdsAt key value container)),
  binary Declared.arrayConcat concat,
  unary Declared.arrayReverse reverse,
  ternary Declared.arraySlice slice,
  ternary Declared.objectGet get,
  unary Declared.objectKeys keys,
  binary Declared.objectUnion objectUnion,
  unary Declared.objectUnionN objectUnionAll,
  binary Declared.and fun _ => intersection,
  binary Declared.or fun _ => union,
  unary Declared.intersection (combineAll Members.intersectionAll),
  unary Declared.union (combineAll Members.unionAll)]

end Rego.Builtin.Collections
