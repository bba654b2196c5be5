import Rego.Builtin.Declared.Effects
import Rego.Builtin.Implementation
import Rego.Uuid

/-!
# Builtins that look beyond their arguments

Random numbers and identifiers draw on the generator of the query, the time is that of the context,
and a trace note goes to the events of the query.
-/

namespace Rego.Builtin.Effects

set_option autoImplicit false

/-- The bound that a number gives, by its magnitude. -/
def bound (name : String) (number : Number) : Except BuiltinError Nat :=
  match number.abs.toUnsigned? with
  | some bound => .ok bound
  | none => failed name (.boundNotInteger number)

/-- A random number below a bound, and zero without drawing where there is none below it. -/
def drawBelow (bound : Nat) (query : Query) : Value × Query :=
  if bound = 0 then (.ofNat 0, query)
  else
    let (word, generator) := query.generator.next
    (.ofNat (word.toNat % bound), { query with generator := generator })

/-- Draws a random number; the first argument only tells draws apart. -/
def randomNumber (name : String) (label limit : Value) (query : Query) : Outcome × Query :=
  let limit := do
    let _ ← Argument.string name label
    bound name (← Argument.number name limit)
  match limit with
  | .ok limit =>
    let (value, query) := drawBelow limit query
    (.ok value, query)
  | .error error => (.error error, query)

/-- Draws a random identifier; the argument only tells draws apart. -/
def randomIdentifier (name : String) (label : Value) (query : Query) : Outcome × Query :=
  match Argument.string name label with
  | .ok _ =>
    let (bytes, generator) := query.generator.sixteenBytes
    (.ok (.string (String.ofList (Uuid.text (Uuid.ofRandom bytes)))),
      { query with generator := generator })
  | .error error => (.error error, query)

/-- The time of a context in nanoseconds since the Unix epoch, before which there is none. -/
def now (name : String) (context : Context) : Outcome :=
  if context.timestamp < 0 then failed name .beforeEpoch else .ok (.ofInt context.timestamp)

/-- Leaves a note and gives true. -/
def leaveNote (name : String) (context : Context) (message : Value) (query : Query) :
    Outcome × Query :=
  match Argument.string name message with
  | .ok text => (.ok (.bool true), context.note text query)
  | .error error => (.error error, query)

/-- The builtins that look beyond their arguments. -/
def builtins : List Builtin := [
  ⟨Declared.randIntn, .stateful fun _ arguments query =>
    match arguments with
    | [label, limit] => randomNumber Declared.randIntn.name label limit query
    | _ => (wrongCount Declared.randIntn.name 2, query)⟩,
  ⟨Declared.uuidRfc4122, .stateful fun _ arguments query =>
    match arguments with
    | [label] => randomIdentifier Declared.uuidRfc4122.name label query
    | _ => (wrongCount Declared.uuidRfc4122.name 1, query)⟩,
  ⟨Declared.timeNowNs, .stateful fun context arguments query =>
    match arguments with
    | [] => (now Declared.timeNowNs.name context, query)
    | _ => (wrongCount Declared.timeNowNs.name 0, query)⟩,
  ⟨Declared.trace, .stateful fun context arguments query =>
    match arguments with
    | [message] => leaveNote Declared.trace.name context message query
    | _ => (wrongCount Declared.trace.name 1, query)⟩]

end Rego.Builtin.Effects
