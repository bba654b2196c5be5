import Rego.Json.Reader

/-!
# Beginnings of texts

A reader that takes a text from front to back has already done its work on all that stands before a
defect when it comes to it.  `Document.beginning` is the document that a text begins: the whole one
where there is one, and otherwise what stands before the defect, followed by a text that spells
nothing in the place of the defect.  `Document.Trouble` is what a reader may then meet first.
-/

namespace Rego

set_option autoImplicit false

/-- What keeps a reader from going on in a document. -/
inductive Document.Trouble where
  /-- There stands something that the reader does not take. -/
  | fault
  /-- The shift of a number literal is no machine word, and the program ends. -/
  | shiftOverflow
deriving DecidableEq

namespace Json

/-- What stands for a defect of a text. -/
def defect : Document.Raw := .string none

/-- Reads a field key and the colon behind it. -/
def readKey (input : List UInt8) : Option (Option String × List UInt8) := do
  let rest ← readMark '"' input
  let (key, rest) ← readText rest
  let rest ← readMark ':' rest
  return (key, rest)

mutual

/-- The document that a text begins. -/
def beginValue : Nat → List UInt8 → Document.Raw
  | 0, _ => defect
  | bound + 1, input =>
    match readValue (bound + 1) input with
    | some (document, _) => document
    | none =>
      match skipBlank input with
      | [] => defect
      | byte :: rest =>
        match Char.ofUInt8 byte with
        | '[' => .array (beginItems bound rest)
        | '{' => .object (beginFields bound rest)
        | _ => defect

/-- The items that a text begins. -/
def beginItems : Nat → List UInt8 → List Document.Raw
  | 0, _ => [defect]
  | bound + 1, input =>
    match readValue bound input with
    | none => [beginValue bound input]
    | some (item, rest) =>
      match readMark ',' rest with
      | some rest => item :: beginItems bound rest
      | none => [item, defect]

/-- The fields that a text begins. -/
def beginFields : Nat → List UInt8 → List (Option String × Document.Raw)
  | 0, _ => [(none, defect)]
  | bound + 1, input =>
    match readKey input with
    | none => [(none, defect)]
    | some (key, rest) =>
      match readValue bound rest with
      | none => [(key, beginValue bound rest)]
      | some (value, rest) =>
        match readMark ',' rest with
        | some rest => (key, value) :: beginFields bound rest
        | none => [(key, value), (none, defect)]

end

end Json

/-- The document that a whole text begins. -/
def Document.beginning (bytes : List UInt8) : Document.Raw :=
  Json.beginValue (2 * bytes.length + 2) bytes

end Rego
