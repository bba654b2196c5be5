import Rego.Builtin.Arithmetic
import Rego.Builtin.Collections
import Rego.Builtin.Conversions
import Rego.Builtin.Effects
import Rego.Builtin.Encodings
import Rego.Builtin.Ordering
import Rego.Builtin.Strings
import Rego.Ty.Matching

/-!
# Calling builtins by name

A registry gives names to builtins.  A call through it checks the arguments against the declaration
first, and keeps the results of builtins whose results may vary, so that equal calls of one query
agree.  A failure learns the place of the call; ordinary failures of calls that are not strict
become undefined values.
-/

namespace Rego

set_option autoImplicit false

/-- A builtin under the name it is called by. -/
structure Registry.Entry where
  name : String
  builtin : Builtin

/-- Builtins by name; no two entries have the same one. -/
abbrev Registry := List Registry.Entry

/-- Why a call gives no value. -/
inductive CallError where
  | unknown (name : String)
  | failed (error : BuiltinError)

/-- The wording of a failed call. -/
def CallError.message : CallError → String
  | .unknown name => "unknown builtin function " ++ backquoted name
  | .failed error => error.message

namespace Registry

/-- The builtins of this library. -/
def builtins : List Builtin :=
  Builtin.Arithmetic.builtins ++ Builtin.Ordering.builtins ++ Builtin.Collections.builtins ++
    Builtin.Strings.builtins ++ Builtin.Conversions.builtins ++ Builtin.Encodings.builtins ++
    Builtin.Effects.builtins

/-- The builtins of this library under their own names. -/
def standard : Registry := builtins.map fun builtin => ⟨builtin.metadata.name, builtin⟩

/-- The builtin of a name. -/
def find? (registry : Registry) (name : String) : Option Builtin :=
  (List.find? (fun entry : Entry => entry.name == name) registry).map Entry.builtin

/-- Gives a name to a builtin, in place of one that has it. -/
def add (registry : Registry) (name : String) (builtin : Builtin) : Registry :=
  List.filter (fun entry : Entry => entry.name != name) registry ++ [⟨name, builtin⟩]

/-- The names in ascending order. -/
def names (registry : Registry) : List String :=
  (registry.map Entry.name).mergeSort fun left right => decide (left ≤ right)

/-! ## The document of a registry -/

/-- The declarations in ascending order of the names they declare. -/
def declarations (registry : Registry) : List Metadata :=
  (registry.map fun entry => entry.builtin.metadata).mergeSort fun left right =>
    decide (left.name ≤ right.name)

/-- The text that lists the declarations. -/
def capabilities (registry : Registry) : Except TyError String := do
  let documents ← registry.declarations.mapM Metadata.toDocument
  let document : Document := .object [("builtins", .array documents)]
  return document.indentedText

/-! ## Calls -/

/-- Whether a number of arguments is what a signature asks for. -/
def countFits (signature : Signature) (count : Nat) : Bool :=
  if signature.variadic.isSome then signature.arguments.length ≤ count
  else count == signature.arguments.length

/-- The first argument, with its position, that is neither undefined nor of its declared type. -/
def misfit? (signature : Signature) (position : Nat) :
    List Value → Option (Nat × Ty × Value)
  | [] => none
  | argument :: rest =>
    match signature.argument? position with
    | some expected =>
      if argument.isUndefined || expected.admits argument then
        misfit? signature (position + 1) rest
      else some (position, expected, argument)
    | none => misfit? signature (position + 1) rest

/-- Checks arguments against the signature of a builtin. -/
def check (name : String) (signature : Signature) (arguments : List Value) :
    Except BuiltinError Unit :=
  if countFits signature arguments.length then
    match misfit? signature 0 arguments with
    | some (position, expected, argument) =>
      failed name (.undeclaredType (position + 1) expected argument)
    | none => .ok ()
  else
    .error (.halting name (.undeclaredCount signature.arguments.length arguments.length))

/-- The names whose results are kept whatever their declarations say. -/
def alwaysKept : List String := ["rand.intn", "uuid.rfc4122"]

/-- Whether the results of a builtin are kept for the query. -/
def isKept (name : String) (metadata : Metadata) : Bool :=
  metadata.isNondeterministic || alwaysKept.contains name

/-- Runs a builtin, or repeats the result that an equal call gave. -/
def perform (context : Context) (name : String) (builtin : Builtin) (arguments : List Value)
    (query : Query) : Outcome × Query :=
  if isKept name builtin.metadata then
    match query.cache.get? name arguments with
    | some value => (.ok value, query)
    | none =>
      match builtin.implementation.run context arguments query with
      | (.ok value, query) =>
        (.ok value, { query with cache := query.cache.put name arguments value })
      | (.error error, query) => (.error error, query)
  else builtin.implementation.run context arguments query

/-- Checks and runs a builtin. -/
def checkAndPerform (context : Context) (name : String) (builtin : Builtin)
    (arguments : List Value) (query : Query) : Outcome × Query :=
  match check name builtin.metadata.declaration arguments with
  | .ok () => perform context name builtin arguments query
  | .error error => (.error error, query)

/-- What a failure at a place means for the evaluation. -/
def settle (context : Context) (strict : Bool) : Outcome → Except CallError Value
  | .ok value => .ok value
  | .error error =>
    if error.isHalting || error.isAborting || strict then
      .error (.failed (error.located context.location))
    else .ok .undefined

/-- Calls a builtin by its name. -/
def invoke (registry : Registry) (context : Context) (name : String) (arguments : List Value)
    (strict : Bool) (query : Query) : Except CallError Value × Query :=
  match registry.find? name with
  | none => (.error (.unknown name), query)
  | some builtin =>
    let (outcome, query) := checkAndPerform context name builtin arguments query
    (settle context strict outcome, query)

end Registry

end Rego
