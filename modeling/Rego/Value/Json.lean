import Rego.Json.Beginning
import Rego.Json.Ordered
import Rego.Number.Literal
import Rego.Number.Text
import Rego.Value.Collection

/-!
# Values as documents

Decoding gives each document one value: a repeated key takes its last value, a number literal the
number it denotes.  An object whose first key is `Document.numberKey` with a string under it stands
for the number that the string spells, and may then hold nothing else.  Documents that nest more
than `maxDepth` containers are refused.

A text is decoded while it is read, so it depends on what stands first whether decoding fails or ends
the program: `trouble?` finds the first thing in a document that decoding does not survive or does
not take, and `decode` looks for it in what the text begins.

Encoding is partial: the undefined value and numbers that are not finite have no document.  Sets
become arrays, and a key that is no string becomes the compact text of its own document.
-/

namespace Rego

set_option autoImplicit false

namespace Value

/-- How deep containers may nest in a document that is decoded. -/
def maxDepth : Nat := 127

/-! ## Decoding -/

/-- The literal of a number in disguise, with whether other fields follow it. -/
def disguised? : List (String × Document) → Option (String × Bool)
  | (key, .string literal) :: rest =>
    if key = Document.numberKey then some (literal, !rest.isEmpty) else none
  | _ => none

/-- The number in disguise, which must stand alone. -/
def ofDisguised? : String × Bool → Option Value
  | (literal, false) => (Number.ofText? literal).map .number
  | (_, true) => none

mutual

/-- The value of a document. -/
def ofDocument? : Document → Option Value
  | .null => some .null
  | .bool value => some (.bool value)
  | .number literal => (Number.ofText? literal).map .number
  | .string text => some (.string text)
  | .array items => (ofItems? items).map .array
  | .object fields =>
    match disguised? fields with
    | some hidden => ofDisguised? hidden
    | none => (ofFields? fields).map fun entries => .object (Fields.ofList entries)
termination_by structural document => document

/-- The values of items. -/
def ofItems? : List Document → Option (List Value)
  | [] => some []
  | item :: rest => do
    let item ← ofDocument? item
    let rest ← ofItems? rest
    return item :: rest
termination_by structural items => items

/-- The entries of fields, in the order of the document. -/
def ofFields? : List (String × Document) → Option (List (Value × Value))
  | [] => some []
  | (key, value) :: rest => do
    let value ← ofDocument? value
    let rest ← ofFields? rest
    return (.string key, value) :: rest
termination_by structural fields => fields

end

/-- The value of a document as read, within a depth limit. -/
def ofRaw? (limit : Nat) (document : Document.Raw) : Option Value :=
  if document.depth ≤ limit then document.validate.bind ofDocument? else none

/-- What reading a text as a number comes to. -/
def literalTrouble? (text : String) : Option Document.Trouble :=
  match Number.ofText text with
  | .ok _ => none
  | .error .malformed => some .fault
  | .error .shiftOverflow => some .shiftOverflow

/-- The literal of a number in disguise among fields as read, with whether others follow it. -/
def rawDisguised? : List (Option String × Document.Raw) → Option (String × Bool)
  | (some key, .string (some literal)) :: rest =>
    if key = Document.numberKey then some (literal, !rest.isEmpty) else none
  | _ => none

mutual

/-- What decoding meets first in a document as read, within a depth limit. -/
def trouble? : Document.Raw → Nat → Option Document.Trouble
  | .null, _ => none
  | .bool _, _ => none
  | .number literal, _ => literalTrouble? literal
  | .string (some _), _ => none
  | .string none, _ => some .fault
  | .array _, 0 => some .fault
  | .array items, limit + 1 => itemsTrouble? items limit
  | .object _, 0 => some .fault
  | .object fields, limit + 1 =>
    match rawDisguised? fields with
    | some (literal, crowded) =>
      (literalTrouble? literal).or (if crowded then some .fault else none)
    | none => fieldsTrouble? fields limit
termination_by structural document => document

/-- What decoding meets first among items. -/
def itemsTrouble? : List Document.Raw → Nat → Option Document.Trouble
  | [], _ => none
  | item :: rest, limit => (trouble? item limit).or (itemsTrouble? rest limit)
termination_by structural items => items

/-- What decoding meets first among fields. -/
def fieldsTrouble? : List (Option String × Document.Raw) → Nat → Option Document.Trouble
  | [], _ => none
  | (none, _) :: _, _ => some .fault
  | (some _, value) :: rest, limit => (trouble? value limit).or (fieldsTrouble? rest limit)
termination_by structural fields => fields

end

/-- Whether decoding bytes ends the program, over a shift that it meets before anything else. -/
def overflows (bytes : List UInt8) : Bool :=
  trouble? (Document.beginning bytes) maxDepth == some .shiftOverflow

/-- Decodes the bytes of a document. -/
def decode (bytes : List UInt8) : Except ValueError Value :=
  match (Document.ofBytes? bytes).bind (ofRaw? maxDepth) with
  | some value => .ok value
  | none => .error (if overflows bytes then .shiftOverflow else .decode)

/-- Decodes the text of a document. -/
def decodeText (text : String) : Except ValueError Value := decode (Text.bytes text)

/-! ## Encoding -/

mutual

/-- The document of a value. -/
def toDocument : Value → Except ValueError Document
  | .null => .ok .null
  | .bool value => .ok (.bool value)
  | .number value =>
    if value.isFinite then .ok (.number value.plainText) else .error (.unencodable value.text)
  | .string text => .ok (.string text)
  | .array items => do return .array (← toItems items)
  | .object fields => do return .object (← toFields fields)
  | .set members => do return .array (← toItems members)
  | .undefined => .error .undefinedInJson
termination_by structural value => value

/-- The documents of items. -/
def toItems : List Value → Except ValueError (List Document)
  | [] => .ok []
  | item :: rest => do
    let item ← toDocument item
    let rest ← toItems rest
    return item :: rest
termination_by structural items => items

/-- The document fields of fields. -/
def toFields : List (Value × Value) → Except ValueError (List (String × Document))
  | [] => .ok []
  | (key, value) :: rest => do
    let key ← keyText key
    let value ← toDocument value
    let rest ← toFields rest
    return (key, value) :: rest
termination_by structural fields => fields

/-- The text of a key: a string is itself, any other key is the compact text of its document. -/
def keyText : Value → Except ValueError String
  | .null => .ok (Document.text .null)
  | .bool value => .ok (Document.text (.bool value))
  | .number value =>
    if value.isFinite then .ok (Document.text (.number value.plainText))
    else .error (.unencodable value.text)
  | .string text => .ok text
  | .array items => do return Document.text (.array (← toItems items))
  | .object fields => do return Document.text (.object (← toFields fields))
  | .set members => do return Document.text (.array (← toItems members))
  | .undefined => .error .undefinedInJson
termination_by structural value => value

end

/-- The compact text of a value's document. -/
def encode (value : Value) : Except ValueError String := value.toDocument.map Document.text

/-- The indented text of a value's document. -/
def encodeIndented (value : Value) : Except ValueError String :=
  value.toDocument.map Document.indentedText

/-! ## Literals -/

mutual

/-- The policy language's own text of a value. -/
def literal : Value → List Char
  | .null => ['n', 'u', 'l', 'l']
  | .bool true => ['t', 'r', 'u', 'e']
  | .bool false => ['f', 'a', 'l', 's', 'e']
  | .number value => value.text.toList
  | .string text => Quoted.encode text
  | .array items => '[' :: (literalItems items ++ [']'])
  | .object fields => '\x7b' :: (literalFields fields ++ ['\x7d'])
  | .set members =>
    match members with
    | [] => ['s', 'e', 't', '(', ')']
    | member :: rest => '\x7b' :: (literalItems (member :: rest) ++ ['\x7d'])
  | .undefined => "<undefined>".toList
termination_by structural value => value

/-- Item texts separated by commas. -/
def literalItems : List Value → List Char
  | [] => []
  | [item] => literal item
  | item :: rest => literal item ++ ',' :: ' ' :: literalItems rest
termination_by structural items => items

/-- Field texts separated by commas. -/
def literalFields : List (Value × Value) → List Char
  | [] => []
  | [(key, value)] => literal key ++ ':' :: ' ' :: literal value
  | (key, value) :: rest =>
    literal key ++ ':' :: ' ' :: (literal value ++ ',' :: ' ' :: literalFields rest)
termination_by structural fields => fields

end

/-- The policy language's own text of a value, as a string. -/
def literalText (value : Value) : String := String.ofList value.literal

/-- The text that shows a value to a person: its document, or its literal when it has none. -/
def displayText (value : Value) : String :=
  match value.encode with
  | .ok text => text
  | .error _ => value.literalText

end Value

end Rego
