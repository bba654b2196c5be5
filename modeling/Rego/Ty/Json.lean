import Rego.Ty.Basic

/-!
# Types as documents

The document of a type is an object whose `type` field holds its marker.  A named type has no object
of its own: its name and description stand next to the fields of the type it names.  Absent parts
and empty lists have no field.

Reading follows the marker.  `Reading` collects, for one field, every way in which a type may need
it, so that reading an object is a choice among the readings of its fields.
-/

namespace Rego

set_option autoImplicit false

open scoped Rego.Power

/-- Why a document is no type, or a type has no document. -/
inductive TyError where
  | notJson
  | unknownMarker (marker : String)
  | missingMarker
  | notObject (found : Document)
  | nameNotText
  | descriptionNotText
  | markerNotText
  | notList (found : Document)
  | staticNotArray
  | incompleteProperty (found : Document)
  | badDisguisedNumber
  | crowdedDisguisedNumber (fields : Nat)
  | unwritableKey (cause : ValueError)
  /-- The shift of a number literal is no machine word; this ends the program. -/
  | shiftOverflow

namespace TyError

/-- What is invalid, for the errors that say so. -/
def detail : TyError → String
  | .notObject found => "expected an object, got \x60" ++ found.text ++ "\x60"
  | .nameNotText => "\x60name\x60 must be a string"
  | .descriptionNotText => "\x60description\x60 must be a string"
  | .markerNotText => "\x60type\x60 must be a string"
  | .notList found => "expected a list of types, got \x60" ++ found.text ++ "\x60"
  | .staticNotArray => "\x60static\x60 must be an array"
  | .incompleteProperty found =>
    "object property \x60" ++ found.text ++ "\x60 needs \x60key\x60 and \x60value\x60"
  | .badDisguisedNumber => "failed to read big number"
  | .crowdedDisguisedNumber fields =>
    "invalid length " ++ toString fields ++ ", expected fewer elements in map"
  | .unwritableKey (.unencodable number) => ValueError.unencodableMessage number
  | .unwritableKey cause => cause.message
  | _ => ""

/-- The wording of a type error; what is wrong with an undecodable text is not worded. -/
def message : TyError → String
  | .unknownMarker marker => "unknown type marker \x60" ++ marker ++ "\x60"
  | .missingMarker => "type is missing the \x60type\x60 field"
  | .shiftOverflow => Number.overflowNote
  | error => "invalid type: " ++ error.detail

/-- The error of a property key with a literal that is not read. -/
def ofLiteralError : LiteralError → TyError
  | .malformed => .badDisguisedNumber
  | .shiftOverflow => .shiftOverflow

end TyError

/-! ## Property keys -/

namespace Number

/-- Whether a literal consists of digits after a possible minus sign. -/
def isWholeLiteral (literal : List Char) : Bool :=
  match literal with
  | '-' :: digits => NumberLiteral.allDigits digits
  | digits => NumberLiteral.allDigits digits

/-- The number of a literal in a property key.  A literal that is the shortest form of its double
stays a double, unless it is an integer that fits one hundred and twenty-eight bits. -/
def ofKeyLiteral (text : String) : Except LiteralError Number :=
  match NumberLiteral.readTrimmed? text.toList with
  | none => .error .malformed
  | some literal =>
    let double := Double.ofDecimal literal.negative literal.significand literal.shift
    let small := literal.value.toInt?.any fun whole =>
      decide (-(2 ^ (127 : Nat)) ≤ whole ∧ whole < 2 ^ (128 : Nat))
    if isWholeLiteral text.toList ∧ small then .ok literal.value
    else if double.isFinite ∧ (text.toList = double.pointText ∨ text.toList = double.text) then
      .ok (.float double)
    else ofText text

end Number

namespace Value

mutual

/-- The value of an ordered document that stands as a property key. -/
def ofKeyDocument : Document → Except TyError Value
  | .null => .ok .null
  | .bool value => .ok (.bool value)
  | .number literal =>
    match Number.ofKeyLiteral literal with
    | .ok value => .ok (.number value)
    | .error error => .error (.ofLiteralError error)
  | .string text => .ok (.string text)
  | .array items => do return .array (← ofKeyItems items)
  | .object fields =>
    match disguised? fields with
    | some (literal, crowded) =>
      match Number.ofText literal with
      | .error error => .error (.ofLiteralError error)
      | .ok value =>
        if crowded then .error (.crowdedDisguisedNumber fields.length) else .ok (.number value)
    | none => do return .object (Fields.ofList (← ofKeyFields fields))
termination_by structural document => document

/-- The values of items in a property key. -/
def ofKeyItems : List Document → Except TyError (List Value)
  | [] => .ok []
  | item :: rest => do
    let item ← ofKeyDocument item
    let rest ← ofKeyItems rest
    return item :: rest
termination_by structural items => items

/-- The entries of fields in a property key. -/
def ofKeyFields : List (String × Document) → Except TyError (List (Value × Value))
  | [] => .ok []
  | (key, value) :: rest => do
    let value ← ofKeyDocument value
    let rest ← ofKeyFields rest
    return (.string key, value) :: rest
termination_by structural fields => fields

end

/-- The ordered document of a property key. -/
def toKeyDocument (key : Value) : Except TyError Document :=
  match key.toDocument with
  | .ok document => .ok (Document.sorted document)
  | .error cause => .error (.unwritableKey cause)

end Value

namespace Ty

/-! ## Writing -/

/-- Adds a field unless there is nothing to hold. -/
def putIfSome (key : String) (document : Option Document) (fields : List (String × Document)) :
    List (String × Document) :=
  match document with
  | some document => Document.put key document fields
  | none => fields

mutual

/-- The fields of the document of a type. -/
def toFields (type : Ty) : Except TyError (List (String × Document)) :=
  match type with
  | .named name description inner => do
    let fields ← toFields inner
    return putIfSome "description" (description.map .string)
      (Document.put "name" (.string name) fields)
  | .any alternatives => do
    let list ← toList alternatives
    return putIfSome "of" list [("type", .string "any")]
  | .array leading further => do
    let list ← toList leading
    let further ← toOption further
    return putIfSome "static" list (putIfSome "dynamic" further [("type", .string "array")])
  | .set members => do
    let members ← toOption members
    return putIfSome "of" members [("type", .string "set")]
  | .object properties further => do
    let list ← toProperties properties
    let further ← toPair further
    return putIfSome "static" (if properties.isEmpty then none else some (.array list))
      (putIfSome "dynamic" further [("type", .string "object")])
  | .function arguments result variadic => do
    let list ← toList arguments
    let result ← toOption result
    let variadic ← toOption variadic
    return putIfSome "args" list
      (putIfSome "result" result (putIfSome "variadic" variadic [("type", .string "function")]))
  | .null => .ok [("type", .string "null")]
  | .boolean => .ok [("type", .string "boolean")]
  | .string => .ok [("type", .string "string")]
  | .number => .ok [("type", .string "number")]
termination_by structural type

/-- The documents of types. -/
def toItems : List Ty → Except TyError (List Document)
  | [] => .ok []
  | type :: rest => do
    let fields ← toFields type
    let rest ← toItems rest
    return .object fields :: rest
termination_by structural types => types

/-- The document of a list of types that is not empty. -/
def toList : List Ty → Except TyError (Option Document)
  | [] => .ok none
  | type :: rest => do
    let fields ← toFields type
    let rest ← toItems rest
    return some (.array (.object fields :: rest))
termination_by structural types => types

/-- The document of an optional type. -/
def toOption : Option Ty → Except TyError (Option Document)
  | none => .ok none
  | some type => do return some (.object (← toFields type))
termination_by structural type => type

/-- The documents of properties. -/
def toProperties : List (Value × Ty) → Except TyError (List Document)
  | [] => .ok []
  | (key, type) :: rest => do
    let key ← key.toKeyDocument
    let fields ← toFields type
    let rest ← toProperties rest
    return .object [("key", key), ("value", .object fields)] :: rest
termination_by structural properties => properties

/-- The document of optional key and value types. -/
def toPair : Option (Ty × Ty) → Except TyError (Option Document)
  | none => .ok none
  | some (key, value) => do
    let key ← toFields key
    let value ← toFields value
    return some (.object [("key", .object key), ("value", .object value)])
termination_by structural pair => pair

end

/-- The document of a type. -/
def toDocument (type : Ty) : Except TyError Document := do return .object (← type.toFields)

/-- The compact text of the document of a type. -/
def encode (type : Ty) : Except TyError String := do return (← type.toDocument).text

/-! ## Reading -/

/-- The ways of reading a field that a type may ask for. -/
structure Reading where
  document : Document
  type : Unit → Except TyError Ty
  types : Unit → Except TyError (List Ty)
  pair : Unit → Except TyError (Ty × Ty)
  properties : Unit → Except TyError (List (Value × Ty))

/-- The reading of a field. -/
def Reading.get? (key : String) : List (String × Reading) → Option Reading
  | [] => none
  | (name, reading) :: rest => if key = name then some reading else get? key rest

/-- An optional type: absent and null fields hold none. -/
def Reading.optional (reading : Option Reading) : Except TyError (Option Ty) :=
  match reading with
  | none => .ok none
  | some reading =>
    match reading.document with
    | .null => .ok none
    | _ => do return some (← reading.type ())

/-- A list of types: absent and null fields hold the empty one. -/
def Reading.list (reading : Option Reading) : Except TyError (List Ty) :=
  match reading with
  | none => .ok []
  | some reading =>
    match reading.document with
    | .null => .ok []
    | _ => reading.types ()

/-- The type that a marker makes of the other fields. -/
def ofMarker (marker : String) (readings : List (String × Reading)) : Except TyError Ty :=
  match marker with
  | "null" => .ok .null
  | "boolean" => .ok .boolean
  | "string" => .ok .string
  | "number" => .ok .number
  | "any" => do return .any (← Reading.list (Reading.get? "of" readings))
  | "array" => do
    let leading ← Reading.list (Reading.get? "static" readings)
    let further ← Reading.optional (Reading.get? "dynamic" readings)
    return .array leading further
  | "set" => do return .set (← Reading.optional (Reading.get? "of" readings))
  | "object" => do
    let properties ←
      match Reading.get? "static" readings with
      | some reading => reading.properties ()
      | none => .ok []
    let further ←
      match Reading.get? "dynamic" readings with
      | some reading => (reading.pair ()).map some
      | none => .ok none
    return .object properties further
  | "function" => do
    let arguments ← Reading.list (Reading.get? "args" readings)
    let result ← Reading.optional (Reading.get? "result" readings)
    let variadic ← Reading.optional (Reading.get? "variadic" readings)
    return .function arguments result variadic
  | marker => .error (.unknownMarker marker)

/-- The type that the fields of an object make, leaving any name aside. -/
def ofUnnamed (readings : List (String × Reading)) : Except TyError Ty :=
  match (Reading.get? "type" readings).map Reading.document with
  | some (.string marker) => ofMarker marker readings
  | some _ => .error .markerNotText
  | none => .error .missingMarker

/-- The type that the fields of an object make. -/
def ofReadings (readings : List (String × Reading)) : Except TyError Ty :=
  match (Reading.get? "name" readings).map Reading.document with
  | none => ofUnnamed readings
  | some (.string name) => do
    let description ←
      match (Reading.get? "description" readings).map Reading.document with
      | some (.string text) => .ok (some text)
      | some .null => .ok none
      | none => .ok none
      | some _ => .error .descriptionNotText
    let inner ← ofUnnamed readings
    return .named name description inner
  | some _ => .error .nameNotText

mutual

/-- The type of an ordered document. -/
def ofDocument : Document → Except TyError Ty
  | .object fields => ofReadings (readings fields)
  | document => .error (.notObject document)
termination_by structural document => document

/-- The readings of the fields of an object. -/
def readings : List (String × Document) → List (String × Reading)
  | [] => []
  | (key, document) :: rest =>
    (key,
      { document := document
        type := fun _ => ofDocument document
        types := fun _ => ofArray document
        pair := fun _ => ofPair document
        properties := fun _ => ofProperties document }) :: readings rest
termination_by structural fields => fields

/-- The types of a document that must be an array. -/
def ofArray : Document → Except TyError (List Ty)
  | .array items => ofItems items
  | document => .error (.notList document)
termination_by structural document => document

/-- The types of items. -/
def ofItems : List Document → Except TyError (List Ty)
  | [] => .ok []
  | item :: rest => do
    let type ← ofDocument item
    let rest ← ofItems rest
    return type :: rest
termination_by structural items => items

/-- The key and value types of an object. -/
def ofPair : Document → Except TyError (Ty × Ty)
  | .object fields =>
    let readings := readings fields
    match Reading.get? "key" readings, Reading.get? "value" readings with
    | some key, some value => do
      let key ← key.type ()
      let value ← value.type ()
      return (key, value)
    | _, _ => .error (.incompleteProperty (.object fields))
  | document => .error (.incompleteProperty document)
termination_by structural document => document

/-- The properties of a document that must be an array. -/
def ofProperties : Document → Except TyError (List (Value × Ty))
  | .array items => ofPropertyItems items
  | _ => .error .staticNotArray
termination_by structural document => document

/-- The properties of items. -/
def ofPropertyItems : List Document → Except TyError (List (Value × Ty))
  | [] => .ok []
  | item :: rest => do
    let property ← ofProperty item
    let rest ← ofPropertyItems rest
    return property :: rest
termination_by structural items => items

/-- The key and the type of a property. -/
def ofProperty : Document → Except TyError (Value × Ty)
  | .object fields =>
    let readings := readings fields
    match Reading.get? "key" readings, Reading.get? "value" readings with
    | some key, some value => do
      let key ← Value.ofKeyDocument key.document
      let type ← value.type ()
      return (key, type)
    | _, _ => .error (.incompleteProperty (.object fields))
  | document => .error (.incompleteProperty document)
termination_by structural document => document

end

/-- Reads the text of a type. -/
def decodeText (text : String) : Except TyError Ty :=
  match (Document.ofBytes? (Text.bytes text)).bind (Document.ofRaw? Value.maxDepth) with
  | some document => ofDocument document
  | none => .error .notJson

end Ty

end Rego
