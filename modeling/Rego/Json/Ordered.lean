import Rego.Json.Reader
import Rego.Json.Writer

/-!
# Documents in order

An ordered document has the fields of every object in ascending key order, each key once.  Any
document has an ordered form, in which the last of repeated fields counts and the exponents of number
literals have a small mark and an explicit sign.  An object that opens with the key of a number in
disguise is ordered into that number, provided its literal is one and nothing follows it.
-/

namespace Rego

set_option autoImplicit false

namespace Document

/-- The key that marks an object as a number in disguise. -/
def numberKey : String := "$serde_json::private::Number"

/-- The field of a key. -/
def get? (key : String) : List (String × Document) → Option Document
  | [] => none
  | (name, document) :: rest => if key = name then some document else get? key rest

/-- Sets a field, keeping ascending key order. -/
def put (key : String) (document : Document) :
    List (String × Document) → List (String × Document)
  | [] => [(key, document)]
  | (name, old) :: rest =>
    match Ord.compare key name with
    | .lt => (key, document) :: (name, old) :: rest
    | .eq => (key, document) :: rest
    | .gt => (name, old) :: put key document rest

/-- Removes a field. -/
def erase (key : String) (fields : List (String × Document)) : List (String × Document) :=
  fields.filter fun field => field.1 != key

/-- The fields in ascending key order, the last of repeated ones. -/
def orderFields (fields : List (String × Document)) : List (String × Document) :=
  fields.foldl (fun ordered field => put field.1 field.2 ordered) []

/-- A number literal whose exponent has a small mark and an explicit sign. -/
def uniformLiteral (literal : List Char) : List Char :=
  let isMark := fun character => character == 'e' || character == 'E'
  let mantissa := literal.takeWhile (fun character => !isMark character)
  match literal.dropWhile (fun character => !isMark character) with
  | _ :: sign :: rest =>
    if sign = '+' ∨ sign = '-' then mantissa ++ 'e' :: sign :: rest
    else mantissa ++ 'e' :: '+' :: sign :: rest
  | _ => literal

/-- The number document of a literal. -/
def ofLiteral (literal : List Char) : Document := .number (String.ofList (uniformLiteral literal))

/-- The number document of a text that is a literal and nothing else. -/
def ofLiteralText? (text : String) : Option Document :=
  match Json.readNumber (Text.bytes text) with
  | some (literal, []) => some (ofLiteral literal)
  | _ => none

mutual

/-- The ordered form of a document. -/
def ordered? : Document → Option Document
  | .null => some .null
  | .bool value => some (.bool value)
  | .number literal => some (ofLiteral literal.toList)
  | .string text => some (.string text)
  | .array items => (orderedItems? items).map .array
  | .object [] => some (.object [])
  | .object ((key, value) :: rest) =>
    if key = numberKey then
      match value, rest with
      | .string text, [] => ofLiteralText? text
      | _, _ => none
    else (orderedFields? ((key, value) :: rest)).map fun fields => .object (orderFields fields)
termination_by structural document => document

/-- The ordered forms of items. -/
def orderedItems? : List Document → Option (List Document)
  | [] => some []
  | item :: rest => do
    let item ← ordered? item
    let rest ← orderedItems? rest
    return item :: rest
termination_by structural items => items

/-- The fields with ordered values, in the order of the document. -/
def orderedFields? : List (String × Document) → Option (List (String × Document))
  | [] => some []
  | (key, value) :: rest => do
    let value ← ordered? value
    let rest ← orderedFields? rest
    return (key, value) :: rest
termination_by structural fields => fields

end

mutual

/-- A document with the fields of every object in ascending key order, the last of repeated ones. -/
def sorted : Document → Document
  | .array items => .array (sortedItems items)
  | .object fields => .object (orderFields (sortedFields fields))
  | document => document
termination_by structural document => document

/-- Items with their objects in order. -/
def sortedItems : List Document → List Document
  | [] => []
  | item :: rest => sorted item :: sortedItems rest
termination_by structural items => items

/-- Fields with the objects in their values in order. -/
def sortedFields : List (String × Document) → List (String × Document)
  | [] => []
  | (key, value) :: rest => (key, sorted value) :: sortedFields rest
termination_by structural fields => fields

end

/-- The ordered form of a document as read, within a depth limit. -/
def ofRaw? (limit : Nat) (document : Raw) : Option Document :=
  if document.depth ≤ limit then document.validate.bind ordered? else none

end Document

end Rego
