import Rego.Json.Record
import Rego.Ty.Json

/-!
# What is declared about a builtin

A declaration names a builtin, says what it does and which group it belongs to, and gives its
signature.  Its document leaves out what is not set and two marks that only serve evaluation, which
are read back with their usual settings.
-/

namespace Rego

set_option autoImplicit false

/-- The declaration of a builtin. -/
structure Metadata where
  name : String
  description : Option String := none
  categories : Option (List String) := none
  declaration : Signature
  operator : Option String := none
  relation : Option Bool := none
  nondeterministic : Option Bool := none
  deprecated : Bool := false
  /-- Set when the builtin does not look at the context of a call. -/
  ignoresContext : Bool := true

namespace Metadata

/-- The declaration that only names a builtin and gives its signature. -/
def new (name : String) (declaration : Signature) : Metadata :=
  { name := name, declaration := declaration }

/-- The number of listed arguments. -/
def arity (metadata : Metadata) : Nat := metadata.declaration.arguments.length

/-- Whether further arguments are taken. -/
def isVariadic (metadata : Metadata) : Bool := metadata.declaration.variadic.isSome

/-- Whether calls with equal arguments may differ. -/
def isNondeterministic (metadata : Metadata) : Bool := metadata.nondeterministic.getD false

/-- Whether the builtin is a relation. -/
def isRelation (metadata : Metadata) : Bool := metadata.relation.getD false

/-- The groups of a builtin: the declared ones, or what stands before the first point of its
name. -/
def categoryList (metadata : Metadata) : List String :=
  match metadata.categories with
  | some categories => categories
  | none =>
    let characters := metadata.name.toList
    if characters.contains '.' then [String.ofList (characters.takeWhile (· != '.'))] else []

/-! ## Documents -/

/-- A field that is left out when there is nothing to hold. -/
def optionalField (key : String) (document : Option Document) : List (String × Document) :=
  match document with
  | some document => [(key, document)]
  | none => []

/-- The document of a declaration. -/
def toDocument (metadata : Metadata) : Except TyError Document := do
  let declaration ← metadata.declaration.toTy.toDocument
  return .object
    (("name", .string metadata.name) ::
      (optionalField "description" (metadata.description.map .string) ++
        optionalField "categories"
          (metadata.categories.map fun categories => .array (categories.map .string)) ++
        ("decl", declaration) ::
        (optionalField "infix" (metadata.operator.map .string) ++
          optionalField "relation" (metadata.relation.map .bool) ++
          optionalField "nondeterministic" (metadata.nondeterministic.map .bool))))

/-- The compact text of the document of a declaration. -/
def encode (metadata : Metadata) : Except TyError String := do
  return (← metadata.toDocument).text

/-- Reads a signature, which must be a function type without a name. -/
def signature? (document : Document.Raw) : Option Signature :=
  match (Document.ofRaw? (Value.maxDepth - 1) document).map Ty.ofDocument with
  | some (.ok (.function arguments result variadic)) => some ⟨arguments, result, variadic⟩
  | _ => none

/-- The fields of the document of a declaration. -/
def fieldNames : List String :=
  ["name", "description", "categories", "decl", "infix", "relation", "nondeterministic",
    "deprecated", "can_skip_bctx"]

/-- Reads the document of a declaration. -/
def ofDocument? (document : Document.Raw) : Option Metadata := do
  match ← Record.fields? fieldNames document with
  | [name, description, categories, declaration, operator, relation, nondeterministic, deprecated,
      ignoresContext] =>
    let name ← Record.required Record.text? name
    let description ← Record.optional Record.text? description
    let categories ← Record.optional Record.texts? categories
    let declaration ← Record.required signature? declaration
    let operator ← Record.optional Record.text? operator
    let relation ← Record.optional Record.bool? relation
    let nondeterministic ← Record.optional Record.bool? nondeterministic
    let deprecated ← Record.defaulted false Record.bool? deprecated
    let ignoresContext ← Record.defaulted true Record.bool? ignoresContext
    return ⟨name, description, categories, declaration, operator, relation, nondeterministic,
      deprecated, ignoresContext⟩
  | _ => none

/-- Reads the text of a declaration. -/
def decodeText? (text : String) : Option Metadata :=
  (Document.ofBytes? (Text.bytes text)).bind ofDocument?

/-- What reading meets first in a signature, whose document is read as a whole before its type. -/
def signatureTrouble? (document : Document.Raw) : Option Document.Trouble :=
  match (Document.ofRaw? (Value.maxDepth - 1) document).map Ty.ofDocument with
  | some (.ok (.function _ _ _)) => none
  | some (.error .shiftOverflow) => some .shiftOverflow
  | _ => some .fault

/-- What reading checks in the fields of a declaration. -/
def checks : List (String × Record.Check) := [
  ("name", Record.taken Record.text?),
  ("description", Record.taken fun document => Record.optional Record.text? (some document)),
  ("categories", Record.taken fun document => Record.optional Record.texts? (some document)),
  ("decl", signatureTrouble?),
  ("infix", Record.taken fun document => Record.optional Record.text? (some document)),
  ("relation", Record.taken fun document => Record.optional Record.bool? (some document)),
  ("nondeterministic", Record.taken fun document => Record.optional Record.bool? (some document)),
  ("deprecated", Record.taken Record.bool?),
  ("can_skip_bctx", Record.taken Record.bool?)]

/-- Whether reading the text of a declaration ends the program. -/
def overflowsText (text : String) : Bool :=
  Record.trouble? checks (Document.beginning (Text.bytes text)) == some .shiftOverflow

end Metadata

end Rego
