import Rego.Json.Beginning
import Rego.Json.Ordered

/-!
# Records in documents

A record is an object with known fields, or the array of their values in the order of declaration.
Fields of an object that the record does not know are skipped, whatever their values hold; a known
field may stand only once.  An array may be shorter than the record, but not longer.

A record is read while its text is, field after field, so what a reader meets first (`trouble?`) is
found with one check for each known field.
-/

namespace Rego.Record

set_option autoImplicit false

/-- The value of the field of a name. -/
def find? (name : String) : List (Option String × Document.Raw) → Option Document.Raw
  | [] => none
  | (key, value) :: rest => if key = some name then some value else find? name rest

/-- Whether a name stands at most once among field keys. -/
def isSingle (name : String) (fields : List (Option String × Document.Raw)) : Bool :=
  (fields.filter fun field => field.1 == some name).length ≤ 1

/-- The values of the fields of given names, where present. -/
def fields? (names : List String) : Document.Raw → Option (List (Option Document.Raw))
  | .object fields =>
    if (fields.all fun field => field.1.isSome) && (names.all fun name => isSingle name fields) then
      some (names.map fun name => find? name fields)
    else none
  | .array items =>
    if items.length ≤ names.length then
      some ((List.range names.length).map fun index => items[index]?)
    else none
  | _ => none

/-! ## Field values -/

/-- Reads a field that must be present. -/
def required {α : Type} (read : Document.Raw → Option α) (field : Option Document.Raw) : Option α :=
  field.bind read

/-- Reads a field that may be absent or null. -/
def optional {α : Type} (read : Document.Raw → Option α) :
    Option Document.Raw → Option (Option α)
  | none => some none
  | some .null => some none
  | some document => (read document).map some

/-- Reads a field that has a default when absent. -/
def defaulted {α : Type} (value : α) (read : Document.Raw → Option α) :
    Option Document.Raw → Option α
  | none => some value
  | some document => read document

/-- A text. -/
def text? : Document.Raw → Option String
  | .string text => text
  | _ => none

/-- A truth value. -/
def bool? : Document.Raw → Option Bool
  | .bool value => some value
  | _ => none

/-- A natural number below a bound, written as digits only. -/
def natural? (bound : Nat) : Document.Raw → Option Nat
  | .number literal =>
    let value := Radix.decimalValue literal.toList
    if literal.toList.all Radix.isDecimalDigit ∧ value < bound then some value else none
  | _ => none

/-- A list of texts. -/
def texts? : Document.Raw → Option (List String)
  | .array items => items.mapM text?
  | _ => none

/-! ## Troubles -/

/-- What the reader of a field meets first in its value. -/
abbrev Check := Document.Raw → Option Document.Trouble

/-- The check of a field whose reader knows values that it takes and others. -/
def taken {α : Type} (read : Document.Raw → Option α) : Check := fun document =>
  if (read document).isSome then none else some .fault

/-- What a reader meets first among the fields of an object, some of which it has seen. -/
def fieldsTrouble? (checks : List (String × Check)) (seen : List String) :
    List (Option String × Document.Raw) → Option Document.Trouble
  | [] => none
  | (none, _) :: _ => some .fault
  | (some name, value) :: rest =>
    match checks.lookup name with
    | none => fieldsTrouble? checks seen rest
    | some check =>
      if seen.contains name then some .fault
      else (check value).or (fieldsTrouble? checks (name :: seen) rest)

/-- What a reader meets first among the values of an array. -/
def itemsTrouble? : List Check → List Document.Raw → Option Document.Trouble
  | _, [] => none
  | [], _ :: _ => some .fault
  | check :: checks, item :: rest => (check item).or (itemsTrouble? checks rest)

/-- What a reader with a check for each of its fields meets first in a document. -/
def trouble? (checks : List (String × Check)) : Check
  | .object fields => fieldsTrouble? checks [] fields
  | .array items => itemsTrouble? (checks.map Prod.snd) items
  | _ => some .fault

end Rego.Record
