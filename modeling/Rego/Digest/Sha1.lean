import Rego.Digest.Padding

/-!
# SHA-1

The secure hash of FIPS 180-4 with five big-endian words and eighty steps for each block of
sixty-four bytes.
-/

namespace Rego.Digest.Sha1

set_option autoImplicit false

/-- The five words of the state. -/
structure State where
  a : UInt32
  b : UInt32
  c : UInt32
  d : UInt32
  e : UInt32

/-- The state before the first block. -/
def initial : State := ⟨0x67452301, 0xEFCDAB89, 0x98BADCFE, 0x10325476, 0xC3D2E1F0⟩

/-- Moves the bits of a word up by some places, those that leave coming in below. -/
def rotate (word places : UInt32) : UInt32 := word <<< places ||| word >>> (32 - places)

/-- The mixing function and the constant of a step. -/
def mix (step : Nat) (b c d : UInt32) : UInt32 :=
  match step / 20 with
  | 0 => ((b &&& c) ||| (~~~b &&& d)) + 0x5A827999
  | 1 => (b ^^^ c ^^^ d) + 0x6ED9EBA1
  | 2 => ((b &&& c) ||| (b &&& d) ||| (c &&& d)) + 0x8F1BBCDC
  | _ => (b ^^^ c ^^^ d) + 0xCA62C1D6

/-- The words of all steps: those of the block, then each made of four earlier ones. -/
def schedule (block : List UInt8) : Array UInt32 :=
  let words := ((groups 4 block).map fun bytes => UInt32.ofNat (ofBigBytes bytes)).toArray
  (List.range 64).foldl (fun words offset =>
    words.push (rotate (words.getD (offset + 13) 0 ^^^ words.getD (offset + 8) 0 ^^^
      words.getD (offset + 2) 0 ^^^ words.getD offset 0) 1)) words

/-- One step. -/
def step (words : Array UInt32) (state : State) (number : Nat) : State :=
  let sum := rotate state.a 5 + mix number state.b state.c state.d + state.e + words.getD number 0
  ⟨sum, state.a, rotate state.b 30, state.c, state.d⟩

/-- The state after a block. -/
def absorb (state : State) (block : List UInt8) : State :=
  let mixed := (List.range 80).foldl (step (schedule block)) state
  ⟨state.a + mixed.a, state.b + mixed.b, state.c + mixed.c, state.d + mixed.d, state.e + mixed.e⟩

/-- The twenty bytes of the digest of a message. -/
def digest (message : List UInt8) : List UInt8 :=
  let final := (groups 64 (padded 64 8 bigBytes message)).foldl absorb initial
  [final.a, final.b, final.c, final.d, final.e].flatMap fun word => bigBytes 4 word.toNat

end Rego.Digest.Sha1
