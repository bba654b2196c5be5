import Rego.Builtin.Declared.Strings
import Rego.Builtin.Implementation
import Rego.Text.Case
import Rego.Text.Search
import Rego.Value.Format

/-!
# Builtins on strings

Searching, splitting, trimming, letter case and formatting.  Positions and lengths count characters.
-/

namespace Rego.Builtin.Strings

set_option autoImplicit false

/-- The value of a list of characters. -/
def text (characters : List Char) : Value := .string (String.ofList characters)

/-- The characters of a string. -/
def characters (name : String) (argument : Value) : Except BuiltinError (List Char) := do
  return (← Argument.string name argument).toList

/-- Computes from the characters of a string. -/
def onText (compute : List Char → Value) (name : String) (argument : Value) : Outcome := do
  return compute (← characters name argument)

/-- Computes from the characters of two strings. -/
def onTexts (compute : List Char → List Char → Value) (name : String) (first second : Value) :
    Outcome := do
  let first ← characters name first
  let second ← characters name second
  return compute first second

/-! ## Joining and splitting -/

/-- The strings of a collection with a delimiter between them. -/
def concat (name : String) (delimiter collection : Value) : Outcome := do
  let delimiter ← Argument.string name delimiter
  let texts ← Argument.strings name collection
  return text (Text.join delimiter.toList (texts.map String.toList))

/-- The parts of a string between the occurrences of a delimiter. -/
def split (whole delimiter : List Char) : Value := .array ((Text.split delimiter whole).map text)

/-- A string with every occurrence of a piece replaced. -/
def replace (name : String) (whole piece replacement : Value) : Outcome := do
  let whole ← characters name whole
  let piece ← characters name piece
  let replacement ← characters name replacement
  return text (Text.replace piece replacement whole)

/-! ## Positions -/

/-- Computes from a string and a piece that must not be empty. -/
def search (compute : List Char → List Char → Value) (name : String) (whole piece : Value) :
    Outcome := do
  let whole ← characters name whole
  let piece ← characters name piece
  if piece.isEmpty then failed name .emptySearch else return compute whole piece

/-- The first position of a piece in a string, or minus one. -/
def firstPosition (whole piece : List Char) : Value :=
  match Text.position? piece whole with
  | some position => .ofNat position
  | none => .ofInt (-1)

/-- All positions of a piece in a string. -/
def allPositions (whole piece : List Char) : Value :=
  .array ((Text.positions piece whole).map Value.ofNat)

/-- The characters from an offset on, as many as a length says; all of them if it is negative. -/
def portion (characters : List Char) (offset length : Int) : List Char :=
  let rest := characters.drop offset.toNat
  if length < 0 then rest else rest.take length.toNat

/-- A portion of a string. -/
def substring (name : String) (whole offset length : Value) : Outcome := do
  let whole ← characters name whole
  let offset ← Argument.integer name offset
  let length ← Argument.integer name length
  return text (portion whole offset length)

/-! ## Formatting -/

/-- An integer in one of four bases. -/
def formatInt (name : String) (number base : Value) : Outcome := do
  let number ← Argument.number name number
  let base ← Argument.integer name base
  if base ∈ [2, 8, 10, 16] then
    match number.radixText? base.toNat with
    | some digits => return .string digits
    | none => failed name (.notWritable number)
  else failed name (.unknownBase base)

/-- What the program ends over when a directive asks too much. -/
def excessCause : Format.Excess → Cause
  | .width => .tooWide
  | .precision => .tooPrecise

/-- A format with arguments in place of its directives. -/
def sprintf (name : String) (format arguments : Value) : Outcome := do
  let format ← characters name format
  let arguments ← Argument.array name arguments
  match Format.excess? format arguments with
  | some excess => aborted name (excessCause excess)
  | none => return text (Format.render format arguments)

/-- The text of one part of a template.  The values of an expression come as a set, which must not
have several members. -/
def partText (name : String) : Value → Except BuiltinError (List Char)
  | .set [] => .ok "<undefined>".toList
  | .set [value] => .ok (Format.plain value)
  | .set _ => failed name .severalOutputs
  | value => .ok (Format.plain value)

/-- The parts of a template, one after the other. -/
def template (name : String) (parts : Value) : Outcome := do
  let texts ← (← Argument.array name parts).mapM (partText name)
  return text texts.flatten

/-- The builtins on strings. -/
def builtins : List Builtin := [
  binary Declared.concat concat,
  binary Declared.split (onTexts split),
  ternary Declared.replace replace,
  binary Declared.stringsCount
    (onTexts fun whole piece => .ofNat (Text.occurrences piece whole)),
  binary Declared.contains (onTexts fun whole piece => .bool (Text.contains piece whole)),
  binary Declared.startswith (onTexts fun whole piece => .bool (Text.startsWith piece whole)),
  binary Declared.endswith (onTexts fun whole piece => .bool (Text.endsWith piece whole)),
  binary Declared.indexof (search firstPosition),
  binary Declared.indexofN (search allPositions),
  ternary Declared.substring substring,
  unary Declared.stringsReverse (onText fun whole => text whole.reverse),
  unary Declared.lower (onText fun whole => .string (Text.lower (String.ofList whole))),
  unary Declared.upper (onText fun whole => .string (Text.upper (String.ofList whole))),
  binary Declared.trim (onTexts fun whole cutset => text (Text.trimWhile cutset.contains whole)),
  binary Declared.trimLeft (onTexts fun whole cutset => text (whole.dropWhile cutset.contains)),
  binary Declared.trimRight
    (onTexts fun whole cutset => text (Text.dropEndWhile cutset.contains whole)),
  binary Declared.trimPrefix (onTexts fun whole piece => text (Text.dropPrefix piece whole)),
  binary Declared.trimSuffix (onTexts fun whole piece => text (Text.dropSuffix piece whole)),
  unary Declared.trimSpace (onText fun whole => text (Text.trimWhile Text.isBlank whole)),
  binary Declared.formatInt formatInt,
  binary Declared.sprintf sprintf,
  unary Declared.internalTemplateString template]

end Rego.Builtin.Strings
