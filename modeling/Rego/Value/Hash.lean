import Rego.Value.Basic

/-!
# What a value feeds to a hasher

Hashing a value means feeding a sequence of items to some hasher.  The items of a number are those
of its exact value, whatever its representation, so that equal values feed equal sequences.
-/

namespace Rego

set_option autoImplicit false

/-- One item of a hash input. -/
inductive HashItem where
  | kind (rank : Nat)
  | bool (value : Bool)
  | word (value : Int)
  | big (value : Int)
  | bits (value : Nat)
  | text (value : String)
  | length (value : Nat)
deriving DecidableEq

/-- The item of a number: its integer, as a word when it fits one, or the bits of its double. -/
def Number.hashItem : Number → HashItem
  | .word value => .word value.toInt
  | .big value => .big value
  | .float value =>
    match value.toInt? with
    | some whole => if FitsWord whole then .word whole else .big whole
    | none => .bits value.toBits

namespace Value

mutual

/-- The items of a value, starting with its kind. -/
def hashItems (value : Value) : List HashItem :=
  .kind value.kind.rank ::
    match value with
    | .bool payload => [.bool payload]
    | .number payload => [payload.hashItem]
    | .string payload => [.text payload]
    | .array items => .length items.length :: hashMembers items
    | .object fields => .length fields.length :: hashFields fields
    | .set members => .length members.length :: hashMembers members
    | _ => []
termination_by structural value

/-- The items of all items of a container. -/
def hashMembers : List Value → List HashItem
  | [] => []
  | item :: rest => hashItems item ++ hashMembers rest
termination_by structural items => items

/-- The items of all keys and values of an object. -/
def hashFields : List (Value × Value) → List HashItem
  | [] => []
  | (key, value) :: rest => hashItems key ++ (hashItems value ++ hashFields rest)
termination_by structural fields => fields

end

end Value

end Rego
