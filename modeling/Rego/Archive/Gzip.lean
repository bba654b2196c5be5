import Rego.Digest.Crc32
import Rego.Digest.Padding
import Rego.Number.Power

/-!
# Streams of stored blocks

A compressed stream has a header, blocks, and a trailer with the checksum and the length of what the
blocks hold.  Here only streams are read whose header has no optional fields and whose blocks are
stored ones, which hold their bytes as they are.

A reader takes bytes from a stream as it needs them and meets a defect only where it comes to it, so
`open` gives the bytes that can be taken and says whether the stream then ends as it should.  Bytes
are decoded in windows; a malformed block spoils the whole window it is met in.
-/

namespace Rego.Gzip

set_option autoImplicit false

open scoped Rego.Power

/-- What can be taken from a stream, and whether it ends as it should after that. -/
structure Stream where
  bytes : List UInt8
  sound : Bool

/-- How a sequence of blocks ends: with a final block and what follows it, too early, or at a block
that is none. -/
inductive Ending where
  | final (rest : List UInt8)
  | early
  | malformed

/-- The bytes of blocks and how the blocks end. -/
def blocks : List UInt8 → List UInt8 × Ending
  | mark :: low :: high :: lowCheck :: highCheck :: rest =>
    let length := Digest.ofLittleBytes [low, high]
    if mark.toNat / 2 % 4 ≠ 0 then ([], .malformed)
    else if length + Digest.ofLittleBytes [lowCheck, highCheck] ≠ 65535 then ([], .malformed)
    else if rest.length < length then (rest, .early)
    else if mark.toNat % 2 = 1 then (rest.take length, .final (rest.drop length))
    else
      let (later, ending) := blocks (rest.drop length)
      (rest.take length ++ later, ending)
  | mark :: _ => if mark.toNat / 2 % 4 ≠ 0 then ([], .malformed) else ([], .early)
  | [] => ([], .early)
termination_by bytes => bytes.length
decreasing_by
  simp only [List.length_drop, List.length_cons]
  omega

/-- Whether a trailer belongs to bytes; what follows the trailer does not count. -/
def isTrailer (bytes trailer : List UInt8) : Bool :=
  8 ≤ trailer.length &&
    Digest.ofLittleBytes (trailer.take 4) == (Digest.Crc32.digest bytes).toNat &&
    Digest.ofLittleBytes ((trailer.drop 4).take 4) == bytes.length % 2 ^ (32 : Nat)

/-- The size of a decoding window. -/
def windowSize : Nat := 2 ^ (15 : Nat)

/-- The stream of blocks and a trailer. -/
def ofBlocks (body : List UInt8) : Stream :=
  match blocks body with
  | (bytes, .final rest) => ⟨bytes, isTrailer bytes rest⟩
  | (bytes, .early) => ⟨bytes, false⟩
  | (bytes, .malformed) => ⟨bytes.take (bytes.length / windowSize * windowSize), false⟩

/-- Whether bytes start a stream of deflated blocks without optional header fields. -/
def isHeader (header : List UInt8) : Bool :=
  header.length == 10 && header.take 3 == [0x1f, 0x8b, 8] && header.getD 3 0 < 2

/-- The stream that a file holds. -/
def «open» (file : List UInt8) : Stream :=
  if isHeader (file.take 10) then ofBlocks (file.drop 10) else ⟨[], false⟩

end Rego.Gzip
