import Rego.Json.Record
import Rego.Value.Json

/-!
# Manifests

A manifest names the revision of a bundle, the roots below which its data lies, the version of the
policy language, and a value of the author's choice.  All of it may be left out; without roots, or
with an empty list of them, the root of everything stands.
-/

namespace Rego

set_option autoImplicit false

/-- The versions of the policy language. -/
inductive LanguageVersion where
  | zero
  | one
deriving DecidableEq

namespace LanguageVersion

/-- The number of a version. -/
def number : LanguageVersion → Nat
  | .zero => 0
  | .one => 1

/-- Reads the number of a version. -/
def read? (document : Document.Raw) : Option LanguageVersion :=
  match Record.natural? 256 document with
  | some 0 => some .zero
  | some 1 => some .one
  | _ => none

end LanguageVersion

/-- What a bundle says about itself. -/
structure Manifest where
  revision : String := ""
  roots : List String := [""]
  version : LanguageVersion := .one
  metadata : Value := .null

namespace Manifest

/-- The manifest of a bundle that has none. -/
def standard : Manifest := {}

/-- Equality, which is that of values in the part of the author's choice. -/
def equals (left right : Manifest) : Bool :=
  left.revision == right.revision && left.roots == right.roots && left.version == right.version &&
    left.metadata.equals right.metadata

/-- The document of a manifest. -/
def toDocument (manifest : Manifest) : Except ValueError Document := do
  let metadata ← manifest.metadata.toDocument
  return .object [("revision", .string manifest.revision),
    ("roots", .array (manifest.roots.map .string)),
    ("rego_version", .number (toString manifest.version.number)),
    ("metadata", metadata)]

/-- The indented text of the document of a manifest. -/
def encode (manifest : Manifest) : Except ValueError String := do
  return (← manifest.toDocument).indentedText

/-- Reads roots; an empty list stands for the root of everything. -/
def roots? (document : Document.Raw) : Option (List String) :=
  (Record.texts? document).map fun roots => if roots.isEmpty then [""] else roots

/-- Reads the document of a manifest. -/
def ofDocument? (document : Document.Raw) : Option Manifest := do
  match ← Record.fields? ["revision", "roots", "rego_version", "metadata"] document with
  | [revision, roots, version, metadata] =>
    let revision ← Record.defaulted standard.revision Record.text? revision
    let roots ← Record.defaulted standard.roots roots? roots
    let version ← Record.defaulted standard.version LanguageVersion.read? version
    let metadata ← Record.defaulted standard.metadata (Value.ofRaw? (Value.maxDepth - 1)) metadata
    return ⟨revision, roots, version, metadata⟩
  | _ => none

/-- Reads the text of a manifest. -/
def decode? (bytes : List UInt8) : Option Manifest :=
  (Document.ofBytes? bytes).bind ofDocument?

/-- What reading checks in the fields of a manifest. -/
def checks : List (String × Record.Check) := [
  ("revision", Record.taken Record.text?),
  ("roots", Record.taken roots?),
  ("rego_version", Record.taken LanguageVersion.read?),
  ("metadata", fun document => Value.trouble? document (Value.maxDepth - 1))]

/-- Whether reading the text of a manifest ends the program. -/
def overflows (bytes : List UInt8) : Bool :=
  Record.trouble? checks (Document.beginning bytes) == some .shiftOverflow

end Manifest

end Rego
