import Rego.Value.Basic

/-!
# Ordered members and fields

The members of a set and the fields of an object are lists in strictly ascending order of
`Value.compare`.  The operations below keep them so.  Where an equal member or key is already
present, insertion keeps the one that is there; a field takes the new value under the old key.
-/

namespace Rego

set_option autoImplicit false

namespace Members

/-- Inserts a member unless an equal one is present. -/
def insert (value : Value) : List Value → List Value
  | [] => [value]
  | member :: rest =>
    match value.compare member with
    | .lt => value :: member :: rest
    | .eq => member :: rest
    | .gt => member :: insert value rest

/-- The member equal to a value. -/
def find? (value : Value) (members : List Value) : Option Value :=
  members.find? fun member => value.compare member == .eq

/-- Whether a member equals a value. -/
def contains (value : Value) (members : List Value) : Bool := (find? value members).isSome

/-- Removes the member equal to a value. -/
def erase (value : Value) (members : List Value) : List Value :=
  members.filter fun member => value.compare member != .eq

/-- The members of a list, the first of equal ones. -/
def ofList (values : List Value) : List Value :=
  values.foldl (fun members value => insert value members) []

/-- The members of a list, the last of equal ones. -/
def ofListKeepingLast (values : List Value) : List Value :=
  values.foldr insert []

/-- The members of either list; of equal ones the left. -/
def union (left right : List Value) : List Value :=
  right.foldl (fun members value => insert value members) left

/-- The members of the left list that the right list does not have. -/
def difference (left right : List Value) : List Value :=
  left.filter fun member => !contains member right

end Members

namespace Fields

/-- The value under a key. -/
def get? (key : Value) : List (Value × Value) → Option Value
  | [] => none
  | (fieldKey, value) :: rest => if key.compare fieldKey == .eq then some value else get? key rest

/-- Sets the value under a key, keeping an equal key that is present. -/
def put (key value : Value) : List (Value × Value) → List (Value × Value)
  | [] => [(key, value)]
  | (fieldKey, old) :: rest =>
    match key.compare fieldKey with
    | .lt => (key, value) :: (fieldKey, old) :: rest
    | .eq => (fieldKey, value) :: rest
    | .gt => (fieldKey, old) :: put key value rest

/-- Removes the field under a key. -/
def erase (key : Value) (fields : List (Value × Value)) : List (Value × Value) :=
  fields.filter fun field => key.compare field.1 != .eq

/-- The fields of a list of entries; of equal keys the first, with the last value. -/
def ofList (entries : List (Value × Value)) : List (Value × Value) :=
  entries.foldl (fun fields entry => put entry.1 entry.2 fields) []

/-- The object with string keys. -/
def ofNamed (entries : List (String × Value)) : List (Value × Value) :=
  ofList (entries.map fun entry => (.string entry.1, entry.2))

end Fields

namespace Value

/-! ## Well-formed values -/

mutual

/-- At every depth members and keys ascend strictly. -/
def WellFormed : Value → Prop
  | .array items => AllWellFormed items
  | .object fields =>
    FieldsWellFormed fields ∧ fields.Pairwise (fun left right => left.1.compare right.1 = .lt)
  | .set members =>
    AllWellFormed members ∧ members.Pairwise (fun left right => left.compare right = .lt)
  | _ => True
termination_by structural value => value

/-- Every item is well-formed. -/
def AllWellFormed : List Value → Prop
  | [] => True
  | item :: rest => item.WellFormed ∧ AllWellFormed rest
termination_by structural items => items

/-- Every key and every field value is well-formed. -/
def FieldsWellFormed : List (Value × Value) → Prop
  | [] => True
  | (key, value) :: rest => key.WellFormed ∧ value.WellFormed ∧ FieldsWellFormed rest
termination_by structural fields => fields

end

/-! ## Lookup -/

/-- The value a container holds at a key: a field's value, an equal member, or the item at a
position; undefined when there is none. -/
def lookup (container key : Value) : Value :=
  match container, key with
  | .object fields, _ => (Fields.get? key fields).getD .undefined
  | .set members, _ => (Members.find? key members).getD .undefined
  | .array items, .number position =>
    match position.toUnsigned? with
    | some index => items.getD index .undefined
    | none => .undefined
  | _, _ => .undefined

/-- The item of an array at a position; undefined when there is none. -/
def lookupPosition (container : Value) (position : Nat) : Value :=
  match container with
  | .array items => items.getD position .undefined
  | _ => .undefined

end Value

end Rego
