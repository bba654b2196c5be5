import Rego.Json.Basic
import Rego.Json.Quoted

/-!
# Writing documents

Two layouts of the same tokens.  The compact one has no white space.  The indented one puts each
item and field on a line of its own, two blanks deeper than its container, and a blank after each
colon; empty containers stay on one line.
-/

namespace Rego

set_option autoImplicit false

namespace Json

mutual

/-- The text without white space. -/
def compact : Document → List Char
  | .null => ['n', 'u', 'l', 'l']
  | .bool true => ['t', 'r', 'u', 'e']
  | .bool false => ['f', 'a', 'l', 's', 'e']
  | .number literal => literal.toList
  | .string text => Quoted.encode text
  | .array items => '[' :: compactItems items
  | .object fields => '\x7b' :: compactFields fields
termination_by structural document => document

/-- Items separated by commas, and the closing bracket. -/
def compactItems : List Document → List Char
  | [] => [']']
  | [item] => compact item ++ [']']
  | item :: rest => compact item ++ ',' :: compactItems rest
termination_by structural items => items

/-- Fields separated by commas, and the closing brace. -/
def compactFields : List (String × Document) → List Char
  | [] => ['\x7d']
  | [(key, value)] => Quoted.encode key ++ ':' :: (compact value ++ ['\x7d'])
  | (key, value) :: rest =>
    Quoted.encode key ++ ':' :: (compact value ++ ',' :: compactFields rest)
termination_by structural fields => fields

end

/-- A line break and the blanks of an indentation level. -/
def newline (level : Nat) : List Char := '\n' :: List.replicate (2 * level) ' '

mutual

/-- The indented text of a document that stands at a level. -/
def indented (level : Nat) : Document → List Char
  | .null => ['n', 'u', 'l', 'l']
  | .bool true => ['t', 'r', 'u', 'e']
  | .bool false => ['f', 'a', 'l', 's', 'e']
  | .number literal => literal.toList
  | .string text => Quoted.encode text
  | .array items =>
    match items with
    | [] => ['[', ']']
    | item :: rest =>
      '[' :: (newline (level + 1) ++ indented (level + 1) item ++ indentedItems level rest)
  | .object fields =>
    match fields with
    | [] => ['\x7b', '\x7d']
    | (key, value) :: rest =>
      '\x7b' :: (newline (level + 1) ++ Quoted.encode key ++ ':' :: ' ' ::
        (indented (level + 1) value ++ indentedFields level rest))
termination_by structural document => document

/-- Further items, each after a comma and a line break, and the closing bracket. -/
def indentedItems (level : Nat) : List Document → List Char
  | [] => newline level ++ [']']
  | item :: rest =>
    ',' :: (newline (level + 1) ++ indented (level + 1) item ++ indentedItems level rest)
termination_by structural items => items

/-- Further fields, each after a comma and a line break, and the closing brace. -/
def indentedFields (level : Nat) : List (String × Document) → List Char
  | [] => newline level ++ ['\x7d']
  | (key, value) :: rest =>
    ',' :: (newline (level + 1) ++ Quoted.encode key ++ ':' :: ' ' ::
      (indented (level + 1) value ++ indentedFields level rest))
termination_by structural fields => fields

end

end Json

/-- The compact text of a document. -/
def Document.text (document : Document) : String := String.ofList document.compact

/-- The indented text of a document. -/
def Document.indentedText (document : Document) : String := String.ofList (document.indented 0)

end Rego
