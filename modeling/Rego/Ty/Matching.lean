import Rego.Ty.Basic

/-!
# Which values a type admits

Names are transparent and function types admit nothing.  The leading types of an array type are used
up by the first items and every further item needs the further type; likewise for the properties of
an object type and its further fields.
-/

namespace Rego.Ty

set_option autoImplicit false

/-- The fields whose keys are none of the listed properties. -/
def furtherFields (properties : List (Value × Ty)) (fields : List (Value × Value)) :
    List (Value × Value) :=
  fields.filter fun field => !properties.any fun property => property.1.equals field.1

mutual

/-- Whether a type admits a value. -/
def admits : Ty → Value → Bool
  | .named _ _ inner, value => admits inner value
  | .any alternatives, value => alternatives.isEmpty || admitsAny alternatives value
  | .null, .null => true
  | .boolean, .bool _ => true
  | .number, .number _ => true
  | .string, .string _ => true
  | .array leading further, .array items =>
    admitsLeading leading items && admitsFurther further (items.drop leading.length)
  | .set none, .set _ => true
  | .set (some type), .set members => members.all fun member => admits type member
  | .object properties further, .object fields =>
    admitsProperties properties fields &&
      admitsFurtherFields further (furtherFields properties fields)
  | _, _ => false
termination_by structural type => type

/-- Whether one of several types admits a value. -/
def admitsAny : List Ty → Value → Bool
  | [], _ => false
  | type :: rest, value => admits type value || admitsAny rest value
termination_by structural types => types

/-- Whether there is an item for each leading type, which admits it. -/
def admitsLeading : List Ty → List Value → Bool
  | [], _ => true
  | _ :: _, [] => false
  | type :: rest, item :: items => admits type item && admitsLeading rest items
termination_by structural types => types

/-- Whether further items are admitted; without a further type there may be none. -/
def admitsFurther : Option Ty → List Value → Bool
  | none, items => items.isEmpty
  | some type, items => items.all fun item => admits type item
termination_by structural type => type

/-- Whether every property is present with an admitted value. -/
def admitsProperties : List (Value × Ty) → List (Value × Value) → Bool
  | [], _ => true
  | (key, type) :: rest, fields =>
    (match Fields.get? key fields with
      | some value => admits type value
      | none => false) && admitsProperties rest fields
termination_by structural properties => properties

/-- Whether further fields are admitted; without further types there may be none. -/
def admitsFurtherFields : Option (Ty × Ty) → List (Value × Value) → Bool
  | none, fields => fields.isEmpty
  | some (key, value), fields =>
    fields.all fun field => admits key field.1 && admits value field.2
termination_by structural pair => pair

end

end Rego.Ty
