import Rego.Digest.Padding

/-!
# SHA-256

The secure hash of FIPS 180-4 with eight big-endian words of thirty-two bits and sixty-four steps
for each block of sixty-four bytes.
-/

namespace Rego.Digest.Sha256

set_option autoImplicit false

/-- The eight words of the state. -/
structure State where
  a : UInt32
  b : UInt32
  c : UInt32
  d : UInt32
  e : UInt32
  f : UInt32
  g : UInt32
  h : UInt32

/-- The state before the first block: leading fraction bits of square roots of primes. -/
def initial : State :=
  ⟨0x6a09e667, 0xbb67ae85, 0x3c6ef372, 0xa54ff53a,
    0x510e527f, 0x9b05688c, 0x1f83d9ab, 0x5be0cd19⟩

/-- The constants added in the steps: leading fraction bits of cube roots of primes. -/
def constants : List UInt32 := [
  0x428a2f98, 0x71374491, 0xb5c0fbcf, 0xe9b5dba5, 0x3956c25b, 0x59f111f1, 0x923f82a4, 0xab1c5ed5,
  0xd807aa98, 0x12835b01, 0x243185be, 0x550c7dc3, 0x72be5d74, 0x80deb1fe, 0x9bdc06a7, 0xc19bf174,
  0xe49b69c1, 0xefbe4786, 0x0fc19dc6, 0x240ca1cc, 0x2de92c6f, 0x4a7484aa, 0x5cb0a9dc, 0x76f988da,
  0x983e5152, 0xa831c66d, 0xb00327c8, 0xbf597fc7, 0xc6e00bf3, 0xd5a79147, 0x06ca6351, 0x14292967,
  0x27b70a85, 0x2e1b2138, 0x4d2c6dfc, 0x53380d13, 0x650a7354, 0x766a0abb, 0x81c2c92e, 0x92722c85,
  0xa2bfe8a1, 0xa81a664b, 0xc24b8b70, 0xc76c51a3, 0xd192e819, 0xd6990624, 0xf40e3585, 0x106aa070,
  0x19a4c116, 0x1e376c08, 0x2748774c, 0x34b0bcb5, 0x391c0cb3, 0x4ed8aa4a, 0x5b9cca4f, 0x682e6ff3,
  0x748f82ee, 0x78a5636f, 0x84c87814, 0x8cc70208, 0x90befffa, 0xa4506ceb, 0xbef9a3f7, 0xc67178f2]

/-- Moves the bits of a word down by some places, those that leave coming in above. -/
def rotate (word places : UInt32) : UInt32 := word >>> places ||| word <<< (32 - places)

/-- The words of all steps: those of the block, then each made of four earlier ones. -/
def schedule (block : List UInt8) : Array UInt32 :=
  let words := ((groups 4 block).map fun bytes => UInt32.ofNat (ofBigBytes bytes)).toArray
  (List.range 48).foldl (fun words offset =>
    let early := words.getD (offset + 1) 0
    let late := words.getD (offset + 14) 0
    let first := rotate early 7 ^^^ rotate early 18 ^^^ early >>> 3
    let second := rotate late 17 ^^^ rotate late 19 ^^^ late >>> 10
    words.push (words.getD offset 0 + first + words.getD (offset + 9) 0 + second)) words

/-- One step. -/
def step (state : State) (constant word : UInt32) : State :=
  let upper := rotate state.e 6 ^^^ rotate state.e 11 ^^^ rotate state.e 25
  let choice := (state.e &&& state.f) ^^^ (~~~state.e &&& state.g)
  let first := state.h + upper + choice + constant + word
  let lower := rotate state.a 2 ^^^ rotate state.a 13 ^^^ rotate state.a 22
  let majority := (state.a &&& state.b) ^^^ (state.a &&& state.c) ^^^ (state.b &&& state.c)
  ⟨first + lower + majority, state.a, state.b, state.c, state.d + first, state.e, state.f, state.g⟩

/-- The state after a block. -/
def absorb (state : State) (block : List UInt8) : State :=
  let mixed := (constants.zip (schedule block).toList).foldl
    (fun state entry => step state entry.1 entry.2) state
  ⟨state.a + mixed.a, state.b + mixed.b, state.c + mixed.c, state.d + mixed.d,
    state.e + mixed.e, state.f + mixed.f, state.g + mixed.g, state.h + mixed.h⟩

/-- The thirty-two bytes of the digest of a message. -/
def digest (message : List UInt8) : List UInt8 :=
  let final := (groups 64 (padded 64 8 bigBytes message)).foldl absorb initial
  [final.a, final.b, final.c, final.d, final.e, final.f, final.g, final.h].flatMap fun word =>
    bigBytes 4 word.toNat

end Rego.Digest.Sha256
