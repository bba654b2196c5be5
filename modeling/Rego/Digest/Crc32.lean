/-!
# Cyclic checksums

The checksum of thirty-two bits that compressed streams carry: the remainder of the message as a
polynomial over two elements, with the coefficients of each byte in reverse order.
-/

namespace Rego.Digest.Crc32

set_option autoImplicit false

/-- One step of the division. -/
def shift (remainder : UInt32) : UInt32 :=
  if remainder &&& 1 = 1 then remainder >>> 1 ^^^ 0xEDB88320 else remainder >>> 1

/-- The remainder after one more byte. -/
def absorb (remainder : UInt32) (byte : UInt8) : UInt32 :=
  shift (shift (shift (shift (shift (shift (shift (shift (remainder ^^^ byte.toUInt32))))))))

/-- The checksum of bytes. -/
def digest (bytes : List UInt8) : UInt32 := bytes.foldl absorb 0xFFFFFFFF ^^^ 0xFFFFFFFF

end Rego.Digest.Crc32
