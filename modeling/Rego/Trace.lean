import Rego.Json.Record
import Rego.Number.Power

/-!
# Trace events

Places in policy files and the notes that evaluation leaves about them, with their documents.
-/

namespace Rego

set_option autoImplicit false

open scoped Rego.Power

/-- A place in a policy file. -/
structure Location where
  file : String
  row : Nat
  column : Nat
deriving DecidableEq

namespace Location

/-- The text that shows a place to a person. -/
def text (location : Location) : String :=
  location.file ++ ":" ++ toString location.row ++ ":" ++ toString location.column

/-- The document of a place. -/
def toDocument (location : Location) : Document :=
  .object [("file", .string location.file), ("row", .number (toString location.row)),
    ("col", .number (toString location.column))]

/-- Reads the document of a place; rows and columns are words of thirty-two bits. -/
def ofDocument? (document : Document.Raw) : Option Location := do
  match ← Record.fields? ["file", "row", "col"] document with
  | [file, row, column] =>
    let file ← Record.required Record.text? file
    let row ← Record.required (Record.natural? (2 ^ (32 : Nat))) row
    let column ← Record.required (Record.natural? (2 ^ (32 : Nat))) column
    return ⟨file, row, column⟩
  | _ => none

end Location

/-- A note, with the place it is about if that is known. -/
structure TraceEvent where
  message : String
  location : Option Location
deriving DecidableEq

namespace TraceEvent

/-- The document of an event. -/
def toDocument (event : TraceEvent) : Document :=
  let location :=
    match event.location with
    | some location => [("location", location.toDocument)]
    | none => []
  .object (("operation", .string "note") :: ("message", .string event.message) :: location)

/-- Whether a document names the one operation there is, as a text or as an object around null. -/
def isNote : Document.Raw → Bool
  | .string text => text == some "note"
  | .object [(key, .null)] => key == some "note"
  | _ => false

/-- Reads the document of an event. -/
def ofDocument? (document : Document.Raw) : Option TraceEvent := do
  match ← Record.fields? ["operation", "message", "location"] document with
  | [operation, message, location] =>
    let operation ← operation
    let message ← Record.required Record.text? message
    let location ← Record.optional Location.ofDocument? location
    if isNote operation then some ⟨message, location⟩ else none
  | _ => none

/-- Reads the text of an event. -/
def decodeText? (text : String) : Option TraceEvent :=
  (Document.ofBytes? (Text.bytes text)).bind ofDocument?

end TraceEvent

end Rego
