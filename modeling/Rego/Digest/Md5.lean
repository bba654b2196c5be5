import Rego.Digest.Padding

/-!
# MD5

The message digest of RFC 1321: four little-endian words, changed by sixty-four steps for each block
of sixty-four bytes.
-/

namespace Rego.Digest.Md5

set_option autoImplicit false

/-- The four words of the state. -/
structure State where
  a : UInt32
  b : UInt32
  c : UInt32
  d : UInt32

/-- The state before the first block. -/
def initial : State := ⟨0x67452301, 0xefcdab89, 0x98badcfe, 0x10325476⟩

/-- The constants added in the steps, the integer parts of `2 ^ 32 * abs (sin step)`. -/
def constants : List UInt32 := [
  0xd76aa478, 0xe8c7b756, 0x242070db, 0xc1bdceee, 0xf57c0faf, 0x4787c62a, 0xa8304613, 0xfd469501,
  0x698098d8, 0x8b44f7af, 0xffff5bb1, 0x895cd7be, 0x6b901122, 0xfd987193, 0xa679438e, 0x49b40821,
  0xf61e2562, 0xc040b340, 0x265e5a51, 0xe9b6c7aa, 0xd62f105d, 0x02441453, 0xd8a1e681, 0xe7d3fbc8,
  0x21e1cde6, 0xc33707d6, 0xf4d50d87, 0x455a14ed, 0xa9e3e905, 0xfcefa3f8, 0x676f02d9, 0x8d2a4c8a,
  0xfffa3942, 0x8771f681, 0x6d9d6122, 0xfde5380c, 0xa4beea44, 0x4bdecfa9, 0xf6bb4b60, 0xbebfbc70,
  0x289b7ec6, 0xeaa127fa, 0xd4ef3085, 0x04881d05, 0xd9d4d039, 0xe6db99e5, 0x1fa27cf8, 0xc4ac5665,
  0xf4292244, 0x432aff97, 0xab9423a7, 0xfc93a039, 0x655b59c3, 0x8f0ccc92, 0xffeff47d, 0x85845dd1,
  0x6fa87e4f, 0xfe2ce6e0, 0xa3014314, 0x4e0811a1, 0xf7537e82, 0xbd3af235, 0x2ad7d2bb, 0xeb86d391]

/-- The rotations of the four rounds. -/
def rotations : List (List UInt32) :=
  [[7, 12, 17, 22], [5, 9, 14, 20], [4, 11, 16, 23], [6, 10, 15, 21]]

/-- Moves the bits of a word up by some places, those that leave coming in below. -/
def rotate (word places : UInt32) : UInt32 := word <<< places ||| word >>> (32 - places)

/-- The word of a block that a step uses. -/
def wordIndex (step : Nat) : Nat :=
  match step / 16 with
  | 0 => step % 16
  | 1 => (5 * step + 1) % 16
  | 2 => (3 * step + 5) % 16
  | _ => 7 * step % 16

/-- The mixing function of a step. -/
def mix (step : Nat) (b c d : UInt32) : UInt32 :=
  match step / 16 with
  | 0 => (b &&& c) ||| (~~~b &&& d)
  | 1 => (d &&& b) ||| (~~~d &&& c)
  | 2 => b ^^^ c ^^^ d
  | _ => c ^^^ (b ||| ~~~d)

/-- One step. -/
def step (words : Array UInt32) (state : State) (number : Nat) (constant : UInt32) : State :=
  let sum := state.a + mix number state.b state.c state.d + constant +
    words.getD (wordIndex number) 0
  let places := (rotations.getD (number / 16) []).getD (number % 4) 0
  ⟨state.d, state.b + rotate sum places, state.b, state.c⟩

/-- The state after a block. -/
def absorb (state : State) (block : List UInt8) : State :=
  let words := ((groups 4 block).map fun bytes => UInt32.ofNat (ofLittleBytes bytes)).toArray
  let mixed := constants.zipIdx.foldl (fun state entry => step words state entry.2 entry.1) state
  ⟨state.a + mixed.a, state.b + mixed.b, state.c + mixed.c, state.d + mixed.d⟩

/-- The sixteen bytes of the digest of a message. -/
def digest (message : List UInt8) : List UInt8 :=
  let final := (groups 64 (padded 64 8 littleBytes message)).foldl absorb initial
  [final.a, final.b, final.c, final.d].flatMap fun word => littleBytes 4 word.toNat

end Rego.Digest.Md5
