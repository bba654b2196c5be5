import Rego.Value.Json

/-!
# Types

The types that describe builtin signatures.  An array type lists the types of its leading items and
may give one for all further items; an object type lists properties that must be present and may
give types for the keys and values of all further fields.  A union without alternatives admits
everything.  Any type may carry a name and a description, which say nothing about values.
-/

namespace Rego

set_option autoImplicit false

/-- A type of values, or the signature of a function. -/
inductive Ty where
  | null
  | boolean
  | string
  | number
  | any (alternatives : List Ty)
  | array (leading : List Ty) (further : Option Ty)
  | set (members : Option Ty)
  | object (properties : List (Value × Ty)) (further : Option (Ty × Ty))
  | function (arguments : List Ty) (result variadic : Option Ty)
  | named (name : String) (description : Option String) (inner : Ty)

/-- The arguments and the result of a function; the variadic type is that of all arguments past the
listed ones. -/
structure Signature where
  arguments : List Ty
  result : Option Ty
  variadic : Option Ty

namespace Ty

instance : Inhabited Ty := ⟨.null⟩

/-- Gives a type a name. -/
def withName (inner : Ty) (name : String) : Ty := .named name none inner

/-- Gives a named type a description; any other type stays what it is. -/
def withDescription (type : Ty) (text : String) : Ty :=
  match type with
  | .named name _ inner => .named name (some text) inner
  | type => type

/-- The type below all names. -/
def unnamed : Ty → Ty
  | .named _ _ inner => inner.unnamed
  | type => type

/-- The word that tells which form a type has. -/
def marker : Ty → String
  | .null => "null"
  | .boolean => "boolean"
  | .string => "string"
  | .number => "number"
  | .any _ => "any"
  | .array _ _ => "array"
  | .set _ => "set"
  | .object _ _ => "object"
  | .function _ _ _ => "function"
  | .named _ _ inner => inner.marker

/-- The signature of a function type. -/
def signature? (type : Ty) : Option Signature :=
  match type.unnamed with
  | .function arguments result variadic => some ⟨arguments, result, variadic⟩
  | _ => none

end Ty

namespace Signature

/-- The type of a signature. -/
def toTy (signature : Signature) : Ty :=
  .function signature.arguments signature.result signature.variadic

/-- The type of the argument at a position. -/
def argument? (signature : Signature) (position : Nat) : Option Ty :=
  match signature.arguments[position]? with
  | some type => some type
  | none => signature.variadic

end Signature

namespace Ty

/-! ## Equality -/

mutual

/-- Equality of types, with property keys compared as values. -/
def equals : Ty → Ty → Bool
  | .null, .null => true
  | .boolean, .boolean => true
  | .string, .string => true
  | .number, .number => true
  | .any left, .any right => equalLists left right
  | .array left leftFurther, .array right rightFurther =>
    equalLists left right && equalOptions leftFurther rightFurther
  | .set left, .set right => equalOptions left right
  | .object left leftFurther, .object right rightFurther =>
    equalProperties left right && equalPairs leftFurther rightFurther
  | .function left leftResult leftVariadic, .function right rightResult rightVariadic =>
    equalLists left right && equalOptions leftResult rightResult &&
      equalOptions leftVariadic rightVariadic
  | .named leftName leftText left, .named rightName rightText right =>
    leftName == rightName && leftText == rightText && equals left right
  | _, _ => false
termination_by structural left => left

/-- Equality of lists of types. -/
def equalLists : List Ty → List Ty → Bool
  | [], [] => true
  | left :: lefts, right :: rights => equals left right && equalLists lefts rights
  | _, _ => false
termination_by structural left => left

/-- Equality of optional types. -/
def equalOptions : Option Ty → Option Ty → Bool
  | none, none => true
  | some left, some right => equals left right
  | _, _ => false
termination_by structural left => left

/-- Equality of property lists. -/
def equalProperties : List (Value × Ty) → List (Value × Ty) → Bool
  | [], [] => true
  | (leftKey, left) :: lefts, (rightKey, right) :: rights =>
    leftKey.equals rightKey && equals left right && equalProperties lefts rights
  | _, _ => false
termination_by structural left => left

/-- Equality of optional key and value types. -/
def equalPairs : Option (Ty × Ty) → Option (Ty × Ty) → Bool
  | none, none => true
  | some (leftKey, left), some (rightKey, right) => equals leftKey rightKey && equals left right
  | _, _ => false
termination_by structural left => left

end

/-! ## Text -/

mutual

/-- The text that shows a type to a person. -/
def text : Ty → String
  | .any alternatives =>
    match alternatives with
    | [] => "any"
    | first :: rest => "any<" ++ textOfList (first :: rest) ++ ">"
  | .array leading further =>
    "array" ++ (if leading.isEmpty then "" else "<" ++ textOfList leading ++ ">") ++
      bracketed further
  | .set members => "set" ++ bracketed members
  | .object properties further =>
    "object" ++
      (if properties.isEmpty then "" else "<" ++ textOfProperties properties ++ ">") ++
      bracketedPair further
  | .function arguments result variadic =>
    "(" ++ textOfList arguments ++ variadicText (!arguments.isEmpty) variadic ++ ")" ++
      resultText result
  | .named name _ inner => name ++ ": " ++ text inner
  | .null => "null"
  | .boolean => "boolean"
  | .string => "string"
  | .number => "number"
termination_by structural type => type

/-- The texts of several types, separated by commas. -/
def textOfList : List Ty → String
  | [] => ""
  | [type] => text type
  | type :: rest => text type ++ ", " ++ textOfList rest
termination_by structural types => types

/-- The texts of properties, separated by commas. -/
def textOfProperties : List (Value × Ty) → String
  | [] => ""
  | [(key, type)] => key.displayText ++ ": " ++ text type
  | (key, type) :: rest =>
    key.displayText ++ ": " ++ text type ++ ", " ++ textOfProperties rest
termination_by structural properties => properties

/-- An optional type in brackets. -/
def bracketed : Option Ty → String
  | none => ""
  | some type => "[" ++ text type ++ "]"
termination_by structural type => type

/-- Optional key and value types in brackets. -/
def bracketedPair : Option (Ty × Ty) → String
  | none => ""
  | some (key, value) => "[" ++ text key ++ ": " ++ text value ++ "]"
termination_by structural pair => pair

/-- The variadic part of an argument list. -/
def variadicText (separated : Bool) : Option Ty → String
  | none => ""
  | some type => (if separated then ", " else "") ++ text type ++ "..."
termination_by structural type => type

/-- The result part of a signature. -/
def resultText : Option Ty → String
  | none => ""
  | some type => " => " ++ text type
termination_by structural type => type

end

end Ty

/-- The text of a signature. -/
def Signature.text (signature : Signature) : String := signature.toTy.text

end Rego
