import Rego.Text.Radix
import Rego.Text.Utf8

/-!
# String literals

A string literal is a text between double quotes in which the quote, the backslash and control
characters are escaped.  `Quoted.encode` writes it; only what must be escaped is escaped, with the
short form where there is one.

Reading works on the bytes of a document.  `Quoted.scan` finds the end of a literal and splits its
content into pieces, refusing only what no literal may contain: a control character, an unknown
escape, a broken unit escape.  `Quoted.spell?` then says which text the pieces spell, and it spells
none when an escaped surrogate is alone or the bytes are not UTF-8.
-/

namespace Rego.Quoted

set_option autoImplicit false

/-! ## Writing -/

/-- The four hexadecimal digits of a code unit. -/
def unitDigits (unit : Nat) : List Char :=
  [Radix.digitChar (unit / 4096 % 16), Radix.digitChar (unit / 256 % 16),
    Radix.digitChar (unit / 16 % 16), Radix.digitChar (unit % 16)]

/-- What a character looks like inside a string literal. -/
def escape (character : Char) : List Char :=
  match character with
  | '"' => ['\\', '"']
  | '\\' => ['\\', '\\']
  | '\x08' => ['\\', 'b']
  | '\x0c' => ['\\', 'f']
  | '\n' => ['\\', 'n']
  | '\r' => ['\\', 'r']
  | '\t' => ['\\', 't']
  | _ =>
    if character.toNat < 0x20 then '\\' :: 'u' :: unitDigits character.toNat else [character]

/-- The string literal of a text. -/
def encode (text : String) : List Char := '"' :: (text.toList.flatMap escape ++ ['"'])

/-! ## Reading -/

/-- A part of the content of a string literal: a byte standing for itself, a character written by a
short escape, or a code unit written by number. -/
inductive Piece where
  | byte (value : UInt8)
  | character (value : Char)
  | unit (value : Nat)
deriving DecidableEq

/-- The character that a short escape stands for. -/
def shortEscape? (mark : Char) : Option Char :=
  match mark with
  | '"' => some '"'
  | '\\' => some '\\'
  | '/' => some '/'
  | 'b' => some '\x08'
  | 'f' => some '\x0c'
  | 'n' => some '\n'
  | 'r' => some '\r'
  | 't' => some '\t'
  | _ => none

/-- The value of a hexadecimal digit given as a byte. -/
def hexDigit? (byte : UInt8) : Option Nat :=
  (Radix.digitValue? (Char.ofUInt8 byte)).filter (fun digit => decide (digit < 16))

/-- The code unit that four hexadecimal digits give. -/
def unit? (first second third fourth : UInt8) : Option Nat := do
  let first ← hexDigit? first
  let second ← hexDigit? second
  let third ← hexDigit? third
  let fourth ← hexDigit? fourth
  return ((first * 16 + second) * 16 + third) * 16 + fourth

/-- Splits the content of a literal, up to its closing quote, into pieces, and gives what follows
the quote. -/
def scan : List UInt8 → Option (List Piece × List UInt8)
  | [] => none
  | byte :: rest =>
    match Char.ofUInt8 byte with
    | '"' => some ([], rest)
    | '\\' =>
      match rest with
      | [] => none
      | mark :: rest =>
        if Char.ofUInt8 mark = 'u' then
          match rest with
          | first :: second :: third :: fourth :: rest => do
            let unit ← unit? first second third fourth
            let (pieces, rest) ← scan rest
            return (.unit unit :: pieces, rest)
          | _ => none
        else do
          let character ← shortEscape? (Char.ofUInt8 mark)
          let (pieces, rest) ← scan rest
          return (.character character :: pieces, rest)
    | _ =>
      if byte < 0x20 then none
      else do
        let (pieces, rest) ← scan rest
        return (.byte byte :: pieces, rest)

/-- The UTF-8 bytes of a code point. -/
def codePointBytes (code : Nat) : List UInt8 := String.utf8EncodeChar (Char.ofNat code)

/-- The bytes that pieces denote; none when a surrogate unit has no partner. -/
def bytes? : List Piece → Option (List UInt8)
  | [] => some []
  | .byte value :: rest => do
    let tail ← bytes? rest
    return value :: tail
  | .character value :: rest => do
    let tail ← bytes? rest
    return String.utf8EncodeChar value ++ tail
  | .unit high :: .unit low :: rest =>
    if 0xD800 ≤ high ∧ high < 0xDC00 then
      if 0xDC00 ≤ low ∧ low < 0xE000 then do
        let tail ← bytes? rest
        return codePointBytes (0x10000 + (high - 0xD800) * 1024 + (low - 0xDC00)) ++ tail
      else none
    else if 0xDC00 ≤ high ∧ high < 0xE000 then none
    else do
      let tail ← bytes? (.unit low :: rest)
      return codePointBytes high ++ tail
  | .unit value :: rest =>
    if 0xD800 ≤ value ∧ value < 0xE000 then none
    else do
      let tail ← bytes? rest
      return codePointBytes value ++ tail

/-- The text that pieces spell. -/
def spell? (pieces : List Piece) : Option String := (bytes? pieces).bind Text.ofBytes?

end Rego.Quoted
