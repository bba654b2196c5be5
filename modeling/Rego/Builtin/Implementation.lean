import Rego.Builtin.Error
import Rego.Builtin.Metadata
import Rego.Builtin.Query

/-!
# Builtins and their implementations

An implementation makes an outcome of a list of arguments; most look at nothing else, and the others
also read the context and change the query.  A builtin pairs an implementation with its declaration.
The constructors `unary`, `binary` and `ternary` refuse any other number of arguments, and the
readers of arguments refuse values of the wrong kind.
-/

namespace Rego

set_option autoImplicit false

/-- How a builtin computes. -/
inductive Implementation where
  | plain (run : List Value → Outcome)
  | stateful (run : Context → List Value → Query → Outcome × Query)

namespace Implementation

/-- Runs an implementation; a plain one leaves the query as it is. -/
def run (implementation : Implementation) (context : Context) (arguments : List Value)
    (query : Query) : Outcome × Query :=
  match implementation with
  | .plain run => (run arguments, query)
  | .stateful run => run context arguments query

end Implementation

/-- A builtin: what is declared about it and how it computes. -/
structure Builtin where
  metadata : Metadata
  implementation : Implementation

namespace Builtin

/-- The failure for a wrong number of arguments. -/
def wrongCount {α : Type} (name : String) (expected : Nat) : Except BuiltinError α :=
  .error (.halting name (.wrongCount expected))

/-- A builtin of one argument; its computation is told its name. -/
def unary (metadata : Metadata) (run : String → Value → Outcome) : Builtin :=
  ⟨metadata, .plain fun arguments =>
    match arguments with
    | [argument] => run metadata.name argument
    | _ => wrongCount metadata.name 1⟩

/-- A builtin of two arguments; its computation is told its name. -/
def binary (metadata : Metadata) (run : String → Value → Value → Outcome) : Builtin :=
  ⟨metadata, .plain fun arguments =>
    match arguments with
    | [first, second] => run metadata.name first second
    | _ => wrongCount metadata.name 2⟩

/-- A builtin of three arguments; its computation is told its name. -/
def ternary (metadata : Metadata) (run : String → Value → Value → Value → Outcome) : Builtin :=
  ⟨metadata, .plain fun arguments =>
    match arguments with
    | [first, second, third] => run metadata.name first second third
    | _ => wrongCount metadata.name 3⟩

end Builtin

/-! ## Arguments -/

namespace Argument

/-- A number. -/
def number (name : String) : Value → Except BuiltinError Number
  | .number value => .ok value
  | value => failed name (.wrongKind .numeric value)

/-- An integer that fits a signed machine word, in any representation. -/
def integer (name : String) (value : Value) : Except BuiltinError Int := do
  match (← number name value).toSigned? with
  | some whole => .ok whole
  | none => failed name (.wrongKind .integer value)

/-- A string. -/
def string (name : String) : Value → Except BuiltinError String
  | .string text => .ok text
  | value => failed name (.wrongKind .string value)

/-- The items of an array. -/
def array (name : String) : Value → Except BuiltinError (List Value)
  | .array items => .ok items
  | value => failed name (.wrongKind .array value)

/-- The members of a set. -/
def set (name : String) : Value → Except BuiltinError (List Value)
  | .set members => .ok members
  | value => failed name (.wrongKind .set value)

/-- The fields of an object. -/
def object (name : String) : Value → Except BuiltinError (List (Value × Value))
  | .object fields => .ok fields
  | value => failed name (.wrongKind .object value)

/-- The texts of items, the first of which has a given index. -/
def stringsFrom (name : String) (index : Nat) : List Value → Except BuiltinError (List String)
  | [] => .ok []
  | .string text :: rest => do
    let texts ← stringsFrom name (index + 1) rest
    return text :: texts
  | _ :: _ => failed name (.notStringElement index)

/-- The texts of an array or a set of strings. -/
def strings (name : String) : Value → Except BuiltinError (List String)
  | .array items => stringsFrom name 0 items
  | .set members => stringsFrom name 0 members
  | _ => failed name .notStrings

end Argument

end Rego
