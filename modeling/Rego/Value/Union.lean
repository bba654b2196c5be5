import Rego.Value.Collection

/-!
# Unions and intersections

The union of two objects takes the right one's values and merges, in the same way, where both sides
hold objects.  Sets have their usual algebra under the equality of values; because equal members may
still be written differently, `Members.intersection` also says whose member stands for both.
-/

namespace Rego

set_option autoImplicit false

namespace Value

mutual

/-- The union of two values, in which the right one wins unless both are objects. -/
def union (left right : Value) : Value :=
  match left, right with
  | .object leftFields, .object rightFields => .object (unionFields leftFields rightFields)
  | _, right => right
termination_by structural right

/-- The union of two field lists. -/
def unionFields (left right : List (Value × Value)) : List (Value × Value) :=
  match right with
  | [] => left
  | (key, value) :: rest =>
    match Fields.get? key left with
    | some current => unionFields (Fields.put key (union current value) left) rest
    | none => unionFields (Fields.put key value left) rest
termination_by structural right

end

end Value

namespace Members

/-- Whether the right of two sets is walked to find their common members: it is much the shorter
one, and the sets do more than touch with their ends. -/
def walksRight (left right : List Value) : Bool :=
  match left.head?, left.getLast?, right.head?, right.getLast? with
  | some leftFirst, some leftLast, some rightFirst, some rightLast =>
    leftFirst.compare rightLast != .eq && leftLast.compare rightFirst != .eq &&
      right.length ≤ left.length / 16
  | _, _, _, _ => false

/-- The members that both sets have, as the walked one writes them. -/
def intersection (left right : List Value) : List Value :=
  if walksRight left right then right.filter fun member => contains member left
  else left.filter fun member => contains member right

/-- The members of any set of a list. -/
def unionAll (sets : List (List Value)) : List Value := sets.foldl union []

/-- The members of every set of a list, and none for the empty list. -/
def intersectionAll : List (List Value) → List Value
  | [] => []
  | first :: rest => rest.foldl intersection first

end Members

end Rego
