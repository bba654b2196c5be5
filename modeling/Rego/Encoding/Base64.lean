import Rego.Encoding.Symbols

/-!
# Base 64

Three bytes become four symbols of six bits each; one or two bytes left over become two or three
symbols, which the padded form fills up with `=`.  Reading the padded form goes block by block, and
any block may be a padded one.  Bits that a last symbol has to spare must be zero.
-/

namespace Rego.Encoding.Base64

set_option autoImplicit false

/-- The letters and digits that open both alphabets. -/
def commonSymbols : List Char :=
  "ABCDEFGHIJKLMNOPQRSTUVWXYZabcdefghijklmnopqrstuvwxyz0123456789".toList

/-- The standard alphabet. -/
def standard : List Char := commonSymbols ++ ['+', '/']

/-- The alphabet for addresses and file names. -/
def urlSafe : List Char := commonSymbols ++ ['-', '_']

/-! ## Writing -/

/-- The symbols of bytes, without padding. -/
def encodeUnpadded (alphabet : List Char) : List UInt8 → List Char
  | first :: second :: third :: rest =>
    let group := (first.toNat * 256 + second.toNat) * 256 + third.toNat
    symbolOf alphabet (group / 262144) :: symbolOf alphabet (group / 4096 % 64) ::
      symbolOf alphabet (group / 64 % 64) :: symbolOf alphabet (group % 64) ::
      encodeUnpadded alphabet rest
  | [first, second] =>
    let group := (first.toNat * 256 + second.toNat) * 4
    [symbolOf alphabet (group / 4096), symbolOf alphabet (group / 64 % 64),
      symbolOf alphabet (group % 64)]
  | [first] =>
    let group := first.toNat * 16
    [symbolOf alphabet (group / 64), symbolOf alphabet (group % 64)]
  | [] => []

/-- The padding that completes the symbols of a number of bytes. -/
def padding (count : Nat) : List Char := List.replicate ((3 - count % 3) % 3) '='

/-- The symbols of bytes, padded to whole blocks. -/
def encode (alphabet : List Char) (bytes : List UInt8) : List Char :=
  encodeUnpadded alphabet bytes ++ padding bytes.length

/-! ## Reading -/

/-- The bytes of the digits of one block, the last of which has a given position. -/
def bytesOfDigits (last : Nat) : List Nat → Except DecodeError (List UInt8)
  | [first, second] =>
    if second % 16 = 0 then .ok [UInt8.ofNat (first * 4 + second / 16)] else .error (.trailing last)
  | [first, second, third] =>
    if third % 4 = 0 then
      let group := (first * 64 + second) * 64 + third
      .ok [UInt8.ofNat (group / 1024), UInt8.ofNat (group / 4 % 256)]
    else .error (.trailing last)
  | [first, second, third, fourth] =>
    let group := ((first * 64 + second) * 64 + third) * 64 + fourth
    .ok [UInt8.ofNat (group / 65536), UInt8.ofNat (group / 256 % 256), UInt8.ofNat (group % 256)]
  | _ => .ok []

/-- The symbols of a block without the padding at its end. -/
def unpad (block : List UInt8) : List UInt8 :=
  (block.reverse.dropWhile fun symbol => Char.ofUInt8 symbol == '=').reverse

/-- The bytes of one padded block at a position. -/
def decodeBlock (alphabet : List Char) (position : Nat) (block : List UInt8) :
    Except DecodeError (List UInt8) :=
  let symbols := unpad block
  if symbols.length < 2 then .error (.padding (position + symbols.length))
  else do
    let digits ← digitsOf alphabet position symbols
    bytesOfDigits (position + symbols.length - 1) digits

/-- The bytes of padded blocks, the first of which has a given position. -/
def decodeBlocks (alphabet : List Char) (position : Nat) :
    List UInt8 → Except DecodeError (List UInt8)
  | first :: second :: third :: fourth :: rest => do
    let bytes ← decodeBlock alphabet position [first, second, third, fourth]
    let others ← decodeBlocks alphabet (position + 4) rest
    return bytes ++ others
  | _ => .ok []

/-- The bytes of a padded text. -/
def decode (alphabet : List Char) (symbols : List UInt8) : Except DecodeError (List UInt8) :=
  if symbols.length % 4 = 0 then decodeBlocks alphabet 0 symbols
  else .error (.length (symbols.length / 4 * 4))

/-- The bytes of digits, the first of which has a given position. -/
def bytesOfGroups (position : Nat) : List Nat → Except DecodeError (List UInt8)
  | first :: second :: third :: fourth :: rest => do
    let bytes ← bytesOfDigits (position + 3) [first, second, third, fourth]
    let others ← bytesOfGroups (position + 4) rest
    return bytes ++ others
  | digits => bytesOfDigits (position + digits.length - 1) digits

/-- The bytes of a text without padding. -/
def decodeUnpadded (alphabet : List Char) (symbols : List UInt8) :
    Except DecodeError (List UInt8) :=
  if symbols.length % 4 = 1 then .error (.length (symbols.length / 4 * 4))
  else do
    let digits ← digitsOf alphabet 0 symbols
    bytesOfGroups 0 digits

end Rego.Encoding.Base64
