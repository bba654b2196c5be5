import Rego.Number.Basic

/-!
# Values

A value is a document tree extended by sets, by object keys of any kind, and by the value of an
expression that has none, `undefined`.  Objects and sets hold their entries as lists in ascending
key order; `WellFormed` states this at every depth.

`Value.compare` orders all values: first by kind, then payloads, with containers compared entry by
entry.  `Value.equals` goes through both values once more and asks for equal payloads; it is coarser
than identity because an integer and a whole double are equal numbers.
-/

namespace Rego

set_option autoImplicit false

/-- A policy value. -/
inductive Value where
  | null
  | bool (value : Bool)
  | number (value : Number)
  | string (value : String)
  | array (items : List Value)
  | object (fields : List (Value × Value))
  | set (members : List Value)
  | undefined

namespace Value

instance : Inhabited Value := ⟨.undefined⟩

/-! ## Kinds -/

/-- The kinds of values, in the order that values of different kinds have. -/
inductive Kind where
  | null
  | boolean
  | number
  | string
  | array
  | object
  | set
  | undefined
deriving DecidableEq

/-- The name of a kind. -/
def Kind.name : Kind → String
  | .null => "null"
  | .boolean => "boolean"
  | .number => "number"
  | .string => "string"
  | .array => "array"
  | .object => "object"
  | .set => "set"
  | .undefined => "undefined"

/-- The place of a kind among the kinds. -/
def Kind.rank : Kind → Nat
  | .null => 0
  | .boolean => 1
  | .number => 2
  | .string => 3
  | .array => 4
  | .object => 5
  | .set => 6
  | .undefined => 7

/-- The kind of a value. -/
def kind : Value → Kind
  | .null => .null
  | .bool _ => .boolean
  | .number _ => .number
  | .string _ => .string
  | .array _ => .array
  | .object _ => .object
  | .set _ => .set
  | .undefined => .undefined

/-- Whether a value is the undefined one. -/
def isUndefined : Value → Bool
  | .undefined => true
  | _ => false

/-- The value of an integer. -/
def ofInt (value : Int) : Value := .number (.ofInt value)

/-- The value of a natural number. -/
def ofNat (value : Nat) : Value := .number (.ofNat value)

/-! ## Order -/

mutual

/-- The order of all values. -/
def compare : Value → Value → Ordering
  | .null, .null => .eq
  | .bool left, .bool right => Ord.compare left right
  | .number left, .number right => left.compare right
  | .string left, .string right => Ord.compare left right
  | .array left, .array right => compareItems left right
  | .object left, .object right => compareFields left right
  | .set left, .set right => compareItems left right
  | .undefined, .undefined => .eq
  | left, right => Ord.compare left.kind.rank right.kind.rank
termination_by structural left => left

/-- The lexicographic order of item lists. -/
def compareItems : List Value → List Value → Ordering
  | [], [] => .eq
  | [], _ :: _ => .lt
  | _ :: _, [] => .gt
  | left :: lefts, right :: rights => (compare left right).then (compareItems lefts rights)
termination_by structural left => left

/-- The lexicographic order of field lists, each field by its key and then its value. -/
def compareFields : List (Value × Value) → List (Value × Value) → Ordering
  | [], [] => .eq
  | [], _ :: _ => .lt
  | _ :: _, [] => .gt
  | (leftKey, left) :: lefts, (rightKey, right) :: rights =>
    (compare leftKey rightKey).then ((compare left right).then (compareFields lefts rights))
termination_by structural left => left

end

instance : Ord Value := ⟨compare⟩

/-! ## Equality -/

mutual

/-- Equality of values, in which an integer equals the whole double of the same value. -/
def equals : Value → Value → Bool
  | .null, .null => true
  | .bool left, .bool right => left == right
  | .number left, .number right => left == right
  | .string left, .string right => left == right
  | .array left, .array right => equalItems left right
  | .object left, .object right => equalFields left right
  | .set left, .set right => equalItems left right
  | .undefined, .undefined => true
  | _, _ => false
termination_by structural left => left

/-- Equality of item lists, which must be of one length. -/
def equalItems : List Value → List Value → Bool
  | [], [] => true
  | left :: lefts, right :: rights => equals left right && equalItems lefts rights
  | _, _ => false
termination_by structural left => left

/-- Equality of field lists, which must be of one length, field by field. -/
def equalFields : List (Value × Value) → List (Value × Value) → Bool
  | [], [] => true
  | (leftKey, left) :: lefts, (rightKey, right) :: rights =>
    equals leftKey rightKey && equals left right && equalFields lefts rights
  | _, _ => false
termination_by structural left => left

end

instance : BEq Value := ⟨equals⟩

/-! ## Errors of values -/

end Value

/-- What can go wrong when values are read, written or merged. -/
inductive ValueError where
  | decode
  | undefinedInJson
  | unencodable (number : String)
  | conflict (path : String)
  | mismatch (expected found : Value.Kind)
  /-- The shift of a number literal is no machine word; this ends the program. -/
  | shiftOverflow
deriving DecidableEq

namespace ValueError

/-- What an encoding error says about its cause. -/
def unencodableMessage (number : String) : String := "could not serialize number " ++ number

/-- The wording of a value error; what is wrong with an undecodable text is not worded. -/
def message : ValueError → String
  | .decode => "failed to decode json"
  | .undefinedInJson => "undefined cannot be represented in json"
  | .unencodable number => "failed to encode json: " ++ unencodableMessage number
  | .conflict path => "conflicting values at \x60" ++ path ++ "\x60"
  | .mismatch expected found => "expected " ++ expected.name ++ ", found " ++ found.name
  | .shiftOverflow => Number.overflowNote

end ValueError

namespace Value

/-! ## Payloads -/

/-- The error of a value that is not of the expected kind. -/
def mismatch (value : Value) (expected : Kind) : ValueError := .mismatch expected value.kind

/-- The payload of a boolean. -/
def asBool : Value → Except ValueError Bool
  | .bool payload => .ok payload
  | value => .error (value.mismatch .boolean)

/-- The payload of a number. -/
def asNumber : Value → Except ValueError Number
  | .number payload => .ok payload
  | value => .error (value.mismatch .number)

/-- The payload of a string. -/
def asString : Value → Except ValueError String
  | .string payload => .ok payload
  | value => .error (value.mismatch .string)

/-- The items of an array. -/
def asArray : Value → Except ValueError (List Value)
  | .array items => .ok items
  | value => .error (value.mismatch .array)

/-- The members of a set. -/
def asSet : Value → Except ValueError (List Value)
  | .set members => .ok members
  | value => .error (value.mismatch .set)

/-- The fields of an object. -/
def asObject : Value → Except ValueError (List (Value × Value))
  | .object fields => .ok fields
  | value => .error (value.mismatch .object)

end Value

end Rego
