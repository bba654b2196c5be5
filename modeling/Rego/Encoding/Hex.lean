import Rego.Encoding.Symbols

/-!
# Hexadecimal text

Two digits for each byte, written in lower case and read in either case.
-/

namespace Rego.Encoding.Hex

set_option autoImplicit false

/-- The digits that are written. -/
def alphabet : List Char := "0123456789abcdef".toList

/-- The digit of a symbol in either case. -/
def digit? (symbol : UInt8) : Option Nat :=
  match digitOf? alphabet symbol with
  | some digit => some digit
  | none => digitOf? "0123456789ABCDEF".toList symbol

/-- The two digits of a byte. -/
def encodeByte (byte : UInt8) : List Char :=
  [symbolOf alphabet (byte.toNat / 16), symbolOf alphabet (byte.toNat % 16)]

/-- The hexadecimal text of bytes. -/
def encode (bytes : List UInt8) : List Char := bytes.flatMap encodeByte

/-- The bytes of an even number of digits, the first of which has a given position. -/
def decodePairs (position : Nat) : List UInt8 → Except DecodeError (List UInt8)
  | high :: low :: rest =>
    match digit? high, digit? low with
    | some highDigit, some lowDigit =>
      (decodePairs (position + 2) rest).map fun bytes =>
        UInt8.ofNat (highDigit * 16 + lowDigit) :: bytes
    | none, _ => .error (.symbol position)
    | some _, none => .error (.symbol (position + 1))
  | _ => .ok []

/-- The bytes of a hexadecimal text. -/
def decode (symbols : List UInt8) : Except DecodeError (List UInt8) :=
  if symbols.length % 2 = 0 then decodePairs 0 symbols
  else .error (.length (symbols.length / 2 * 2))

end Rego.Encoding.Hex
