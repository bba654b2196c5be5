import Rego.Json.Basic
import Rego.Json.Quoted
import Rego.Text.Utf8

/-!
# Reading documents

A recursive descent over the bytes of a text, after the grammar of RFC 8259: four white space
characters, no trailing text, no trailing commas, numbers without leading zeros.  Every step returns
what it read and the remaining bytes.  The recursion is bounded by a count that starts at twice the
length of the text, more than any text can use.
-/

namespace Rego

set_option autoImplicit false

namespace Json

/-- The four white space characters of the format. -/
def isBlankByte (byte : UInt8) : Bool :=
  byte == 0x20 || byte == 0x09 || byte == 0x0A || byte == 0x0D

/-- Drops leading white space. -/
def skipBlank (input : List UInt8) : List UInt8 := input.dropWhile isBlankByte

/-- Whether a byte is a decimal digit. -/
def isDigitByte (byte : UInt8) : Bool := 0x30 ≤ byte && byte ≤ 0x39

/-- Splits off the longest run of digits. -/
def splitDigits (input : List UInt8) : List Char × List UInt8 :=
  ((input.takeWhile isDigitByte).map Char.ofUInt8, input.dropWhile isDigitByte)

/-- Splits off a nonempty run of digits. -/
def readDigits (input : List UInt8) : Option (List Char × List UInt8) :=
  let (digits, rest) := splitDigits input
  if digits = [] then none else some (digits, rest)

/-- Reads a possible minus sign. -/
def readMinus : List UInt8 → List Char × List UInt8
  | [] => ([], [])
  | byte :: rest => if Char.ofUInt8 byte = '-' then (['-'], rest) else ([], byte :: rest)

/-- Reads the digits before the point, which are a lone zero or start with another digit. -/
def readWhole (input : List UInt8) : Option (List Char × List UInt8) := do
  let (digits, rest) ← readDigits input
  if digits.head? = some '0' ∧ digits.length ≠ 1 then none else some (digits, rest)

/-- Reads a possible point with its digits. -/
def readFraction : List UInt8 → Option (List Char × List UInt8)
  | [] => some ([], [])
  | byte :: rest =>
    if Char.ofUInt8 byte = '.' then
      (readDigits rest).map fun (digits, rest) => ('.' :: digits, rest)
    else some ([], byte :: rest)

/-- Reads a possible exponent. -/
def readExponent : List UInt8 → Option (List Char × List UInt8)
  | [] => some ([], [])
  | byte :: rest =>
    if Char.ofUInt8 byte = 'e' ∨ Char.ofUInt8 byte = 'E' then
      match rest with
      | [] => none
      | sign :: tail =>
        if Char.ofUInt8 sign = '+' ∨ Char.ofUInt8 sign = '-' then
          (readDigits tail).map fun (digits, rest) =>
            (Char.ofUInt8 byte :: Char.ofUInt8 sign :: digits, rest)
        else (readDigits rest).map fun (digits, rest) => (Char.ofUInt8 byte :: digits, rest)
    else some ([], byte :: rest)

/-- Reads a number literal. -/
def readNumber (input : List UInt8) : Option (List Char × List UInt8) := do
  let (minus, rest) := readMinus input
  let (whole, rest) ← readWhole rest
  let (fraction, rest) ← readFraction rest
  let (exponent, rest) ← readExponent rest
  return (minus ++ whole ++ fraction ++ exponent, rest)

/-- Reads the rest of a keyword. -/
def readWord (word : List Char) (document : Document.Raw) (input : List UInt8) :
    Option (Document.Raw × List UInt8) :=
  if (input.take word.length).map Char.ofUInt8 = word then
    some (document, input.drop word.length)
  else none

/-- Reads the rest of a string literal. -/
def readText (input : List UInt8) : Option (Option String × List UInt8) :=
  (Quoted.scan input).map fun (pieces, rest) => (Quoted.spell? pieces, rest)

/-- Drops white space and the one character that must follow it. -/
def readMark (mark : Char) (input : List UInt8) : Option (List UInt8) :=
  match skipBlank input with
  | [] => none
  | byte :: rest => if Char.ofUInt8 byte = mark then some rest else none

mutual

/-- Reads a document after possible white space. -/
def readValue : Nat → List UInt8 → Option (Document.Raw × List UInt8)
  | 0, _ => none
  | bound + 1, input =>
    match skipBlank input with
    | [] => none
    | byte :: rest =>
      match Char.ofUInt8 byte with
      | 'n' => readWord ['u', 'l', 'l'] .null rest
      | 't' => readWord ['r', 'u', 'e'] (.bool true) rest
      | 'f' => readWord ['a', 'l', 's', 'e'] (.bool false) rest
      | '"' => (readText rest).map fun (text, rest) => (.string text, rest)
      | '[' =>
        match readMark ']' rest with
        | some rest => some (.array [], rest)
        | none => (readItems bound rest).map fun (items, rest) => (.array items, rest)
      | '{' =>
        match readMark '}' rest with
        | some rest => some (.object [], rest)
        | none => (readFields bound rest).map fun (fields, rest) => (.object fields, rest)
      | _ =>
        (readNumber (byte :: rest)).map fun (literal, rest) =>
          (.number (String.ofList literal), rest)

/-- Reads one or more items and the closing bracket. -/
def readItems : Nat → List UInt8 → Option (List Document.Raw × List UInt8)
  | 0, _ => none
  | bound + 1, input => do
    let (item, rest) ← readValue bound input
    match skipBlank rest with
    | [] => none
    | byte :: rest =>
      match Char.ofUInt8 byte with
      | ']' => some ([item], rest)
      | ',' => (readItems bound rest).map fun (items, rest) => (item :: items, rest)
      | _ => none

/-- Reads one or more fields and the closing brace. -/
def readFields : Nat → List UInt8 → Option (List (Option String × Document.Raw) × List UInt8)
  | 0, _ => none
  | bound + 1, input => do
    let rest ← readMark '"' input
    let (key, rest) ← readText rest
    let rest ← readMark ':' rest
    let (value, rest) ← readValue bound rest
    match skipBlank rest with
    | [] => none
    | byte :: rest =>
      match Char.ofUInt8 byte with
      | '\x7d' => some ([(key, value)], rest)
      | ',' =>
        (readFields bound rest).map fun (fields, rest) => ((key, value) :: fields, rest)
      | _ => none

end

end Json

/-- Reads a whole document, with white space allowed around it. -/
def Document.ofBytes? (bytes : List UInt8) : Option Document.Raw :=
  match Json.readValue (2 * bytes.length + 2) bytes with
  | some (document, rest) => if Json.skipBlank rest = [] then some document else none
  | none => none

end Rego
