import Rego.Digest.Padding

/-!
# Keyed digests

The keyed digest of RFC 2104 over any digest.  A key longer than a block is first digested; the key,
filled up with zeros, then enters an inner and an outer digest under two different masks.
-/

namespace Rego.Digest

set_option autoImplicit false

/-- The key as one block. -/
def blockKey (digest : List UInt8 → List UInt8) (blockSize : Nat) (key : List UInt8) : List UInt8 :=
  let short := if blockSize < key.length then digest key else key
  short ++ List.replicate (blockSize - short.length) 0

/-- The keyed digest of a message. -/
def hmac (digest : List UInt8 → List UInt8) (blockSize : Nat) (key message : List UInt8) :
    List UInt8 :=
  let block := blockKey digest blockSize key
  let inner := digest (block.map (fun byte => byte ^^^ 0x36) ++ message)
  digest (block.map (fun byte => byte ^^^ 0x5c) ++ inner)

end Rego.Digest
