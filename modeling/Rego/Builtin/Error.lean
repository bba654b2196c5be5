import Rego.Encoding.Symbols
import Rego.Number.Quantity
import Rego.Trace
import Rego.Ty.Basic

/-!
# Why a builtin fails

A failure carries the builtin's name, a cause, and the place of the call once that is known.
Halting failures end the evaluation; ordinary ones only leave the call without a value unless
evaluation is strict.  An aborting failure is none that the library reports: it ends the program.
-/

namespace Rego

set_option autoImplicit false

/-- How far a failure reaches. -/
inductive Severity where
  | halting
  | ordinary
  | aborting
deriving DecidableEq

/-- The kinds of argument that builtins ask for. -/
inductive ArgumentKind where
  | numeric
  | integer
  | string
  | array
  | set
  | object

/-- The word for a kind of argument. -/
def ArgumentKind.word : ArgumentKind → String
  | .numeric => "numeric"
  | .integer => "integer"
  | .string => "string"
  | .array => "array"
  | .set => "set"
  | .object => "object"

/-- The cause of a failure. -/
inductive Cause where
  | undeclaredCount (expected got : Nat)
  | undeclaredType (position : Nat) (expected : Ty) (got : Value)
  | wrongCount (expected : Nat)
  | wrongKind (expected : ArgumentKind) (got : Value)
  | notCountable (got : Value)
  | notCollection (got : Value)
  | notStrings
  | notStringElement (index : Nat)
  | notBothSets (got : Value)
  | notSetOfSets (got : Value)
  | notObjectItem (index : Nat)
  | notConvertible
  | notNumberText (text : String)
  | arithmetic (error : ArithmeticError)
  | negativeShift (got : Value)
  | bitsUndefined (left right : Number)
  | stepNotPositive (step : Int)
  | boundNotInteger (bound : Number)
  | unknownBase (base : Int)
  | notWritable (number : Number)
  | emptySearch
  | severalOutputs
  | notQuantity (error : QuantityError)
  | undecodable (encoding : String) (error : Encoding.DecodeError)
  | beforeEpoch
  | host (text : String)
  | shiftOverflow
  | tooWide
  | tooPrecise

/-- A text in backquotes. -/
def backquoted (text : String) : String := "\x60" ++ text ++ "\x60"

/-- The wording of a cause in the failure of a named builtin. -/
def Cause.message (name : String) : Cause → String
  | .undeclaredCount expected got =>
    backquoted name ++ " expects " ++ toString expected ++ " argument(s). Got " ++ toString got ++
      " instead"
  | .undeclaredType position expected got =>
    backquoted name ++ " expects argument " ++ toString position ++ " of type " ++
      backquoted expected.unnamed.text ++ ". Got " ++ backquoted got.displayText ++ " instead"
  | .wrongCount expected =>
    if expected = 1 then backquoted name ++ " expects 1 argument"
    else backquoted name ++ " expects " ++ toString expected ++ " arguments"
  | .wrongKind expected got =>
    backquoted name ++ " expects " ++ expected.word ++ " argument. Got " ++
      backquoted got.displayText ++ " instead"
  | .notCountable got =>
    backquoted name ++ " requires array/object/set/string argument. Got " ++
      backquoted got.displayText ++ "."
  | .notCollection got =>
    backquoted name ++ " requires array/set argument. Got " ++ backquoted got.displayText ++ "."
  | .notStrings => backquoted name ++ " expects array/set of strings."
  | .notStringElement index =>
    backquoted name ++ " expects string collection. Element " ++ toString index ++
      " is not a string."
  | .notBothSets got =>
    backquoted name ++ " expects both arguments to be sets. Got " ++ backquoted got.displayText
  | .notSetOfSets got =>
    backquoted name ++ " expects set of sets. Got " ++ backquoted got.displayText
  | .notObjectItem index => "item at index " ++ toString index ++ " is not an object"
  | .notConvertible => backquoted name ++ " expects bool/number/string/null argument."
  | .notNumberText text => "could not parse " ++ backquoted text ++ " as number"
  | .arithmetic error => error.message
  | .negativeShift got =>
    backquoted name ++ " expects a non-negative shift. Got " ++ backquoted got.displayText ++
      " instead"
  | .bitsUndefined left right =>
    backquoted name ++ " could not be applied to " ++ backquoted left.text ++ " and " ++
      backquoted right.text
  | .stepNotPositive step =>
    backquoted name ++ " step must be a positive integer. Got " ++ backquoted (toString step)
  | .boundNotInteger bound =>
    backquoted name ++ " expects an integer bound. Got " ++ backquoted bound.text
  | .unknownBase base =>
    backquoted name ++ " expects base of 2, 8, 10, 16. Got " ++ backquoted (toString base)
  | .notWritable number => backquoted name ++ " could not format " ++ backquoted number.text
  | .emptySearch => "empty search character"
  | .severalOutputs => "template-strings must not produce multiple outputs"
  | .notQuantity error => error.message
  | .undecodable encoding error => "invalid " ++ encoding ++ ": " ++ error.message
  | .beforeEpoch => "could not fetch time: second time provided was later than self"
  | .host text => text
  | .shiftOverflow => Number.overflowNote
  | .tooWide => "capacity overflow"
  | .tooPrecise => "Formatting argument out of range"

/-- The failure of a builtin. -/
structure BuiltinError where
  severity : Severity
  name : String
  cause : Cause
  location : Option Location

namespace BuiltinError

/-- An ordinary failure at no known place. -/
def ordinary (name : String) (cause : Cause) : BuiltinError := ⟨.ordinary, name, cause, none⟩

/-- A halting failure at no known place. -/
def halting (name : String) (cause : Cause) : BuiltinError := ⟨.halting, name, cause, none⟩

/-- The end of the program in a builtin. -/
def aborting (name : String) (cause : Cause) : BuiltinError := ⟨.aborting, name, cause, none⟩

/-- Whether a failure ends the evaluation. -/
def isHalting (error : BuiltinError) : Bool := error.severity == .halting

/-- Whether a failure ends the program. -/
def isAborting (error : BuiltinError) : Bool := error.severity == .aborting

/-- Records a place unless one is known already. -/
def located (error : BuiltinError) (location : Option Location) : BuiltinError :=
  { error with location := error.location.or location }

/-- The text that shows a failure to a person. -/
def message (error : BuiltinError) : String :=
  let place :=
    match error.location with
    | some location => location.text ++ ": "
    | none => ""
  place ++ error.name ++ ": " ++ error.cause.message error.name

end BuiltinError

/-- What a builtin gives: a value or a failure. -/
abbrev Outcome := Except BuiltinError Value

/-- The ordinary failure of a named builtin, as an outcome. -/
def failed {α : Type} (name : String) (cause : Cause) : Except BuiltinError α :=
  .error (.ordinary name cause)

/-- The end of the program in a named builtin, as an outcome. -/
def aborted {α : Type} (name : String) (cause : Cause) : Except BuiltinError α :=
  .error (.aborting name cause)

end Rego
