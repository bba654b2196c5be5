/-!
# Messages in blocks

Digests read a message in blocks of fixed size.  The message is followed by a single one bit, by
zeros, and by its length in bits, so that it fills whole blocks.  Words are groups of bytes in
big-endian or little-endian order.
-/

namespace Rego.Digest

set_option autoImplicit false

/-- The bytes of a number, least significant first. -/
def littleBytes : Nat → Nat → List UInt8
  | 0, _ => []
  | count + 1, number => UInt8.ofNat (number % 256) :: littleBytes count (number / 256)

/-- The bytes of a number, most significant first. -/
def bigBytes (count number : Nat) : List UInt8 := (littleBytes count number).reverse

/-- The number of bytes, least significant first. -/
def ofLittleBytes : List UInt8 → Nat
  | [] => 0
  | byte :: rest => byte.toNat + 256 * ofLittleBytes rest

/-- The number of bytes, most significant first. -/
def ofBigBytes (bytes : List UInt8) : Nat := ofLittleBytes bytes.reverse

/-- The groups of a list, each of a given size, the last one possibly shorter. -/
def groups (size : Nat) (bytes : List UInt8) : List (List UInt8) :=
  (List.range ((bytes.length + size - 1) / size)).map fun index =>
    (bytes.drop (index * size)).take size

/-- How many zero bytes follow the first padding byte, so that the length field ends a block. -/
def zerosAfter (blockSize lengthSize length : Nat) : Nat :=
  (2 * blockSize - (length + 1 + lengthSize) % blockSize) % blockSize

/-- A message with its padding, the length of which is written by a given rule. -/
def padded (blockSize lengthSize : Nat) (writeLength : Nat → Nat → List UInt8)
    (message : List UInt8) : List UInt8 :=
  message ++ 0x80 :: (List.replicate (zerosAfter blockSize lengthSize message.length) 0 ++
    writeLength lengthSize (message.length * 8))

end Rego.Digest
