/-!
# Interchange documents

The tree of a JSON text.  Number literals keep their text, and the fields of an object stand in the
order of the text with repetitions, because readers of documents differ in what they make of both.

The type is generic in its texts: a tree just read holds, for each string literal, the text that it
spells or nothing when its escapes or bytes spell none (`Document.Raw`), since a reader that skips a
part of a document does not care about the texts in it.  `validate` turns such a tree into one with
plain texts.
-/

namespace Rego

set_option autoImplicit false

/-- A JSON tree over a type of texts. -/
inductive Json (τ : Type) where
  | null
  | bool (value : Bool)
  | number (literal : String)
  | string (text : τ)
  | array (items : List (Json τ))
  | object (fields : List (τ × Json τ))

/-- A document whose string literals all spell texts. -/
abbrev Document := Json String

/-- A document as read, whose string literals may spell nothing. -/
abbrev Document.Raw := Json (Option String)

namespace Json

variable {τ : Type}

mutual

/-- How deep containers nest; a document without containers has depth zero. -/
def depth : Json τ → Nat
  | .array items => itemsDepth items + 1
  | .object fields => fieldsDepth fields + 1
  | _ => 0
termination_by structural document => document

/-- The greatest depth among items. -/
def itemsDepth : List (Json τ) → Nat
  | [] => 0
  | item :: rest => max (depth item) (itemsDepth rest)
termination_by structural items => items

/-- The greatest depth among field values. -/
def fieldsDepth : List (τ × Json τ) → Nat
  | [] => 0
  | (_, value) :: rest => max (depth value) (fieldsDepth rest)
termination_by structural fields => fields

end

mutual

/-- The document with plain texts, when every string literal spells one. -/
def validate : Document.Raw → Option Document
  | .null => some .null
  | .bool value => some (.bool value)
  | .number literal => some (.number literal)
  | .string text => text.map .string
  | .array items => (validateItems items).map .array
  | .object fields => (validateFields fields).map .object
termination_by structural document => document

/-- Item lists with plain texts. -/
def validateItems : List Document.Raw → Option (List Document)
  | [] => some []
  | item :: rest => do
    let item ← validate item
    let rest ← validateItems rest
    return item :: rest
termination_by structural items => items

/-- Field lists with plain texts. -/
def validateFields : List (Option String × Document.Raw) → Option (List (String × Document))
  | [] => some []
  | (key, value) :: rest => do
    let key ← key
    let value ← validate value
    let rest ← validateFields rest
    return (key, value) :: rest
termination_by structural fields => fields

end

end Json

end Rego
