import Rego.Number.Power

/-!
# Random generators

A generator is an endless sequence of words of sixty-four bits and a position in it, so that drawing
a word advances the position and nothing else.  Seeded generators take their words from the ChaCha
stream with eight rounds whose key is spread out of the seed by a permuted congruential generator.
-/

namespace Rego

set_option autoImplicit false

open scoped Rego.Power

/-- A sequence of random words and the position of the next one. -/
structure Generator where
  word : Nat → UInt64
  position : Nat

namespace Generator

/-- Draws the next word. -/
def next (generator : Generator) : UInt64 × Generator :=
  (generator.word generator.position, { generator with position := generator.position + 1 })

/-- The bytes of a word, least significant first. -/
def wordBytes (word : UInt64) : List UInt8 :=
  (List.range 8).map fun index => UInt8.ofNat (word.toNat / 256 ^ index % 256)

/-- Draws sixteen bytes, which are those of two words. -/
def sixteenBytes (generator : Generator) : List UInt8 × Generator :=
  let (first, generator) := generator.next
  let (second, generator) := generator.next
  (wordBytes first ++ wordBytes second, generator)

/-- The generator that gives listed words in turn, over and over. -/
def cycling (words : List UInt64) : Generator :=
  ⟨fun index => words.getD (index % words.length) 0, 0⟩

/-! ## The seeded stream -/

/-- Moves the bits of a word up by some places, those that leave coming in below. -/
def rotateUp (word places : UInt32) : UInt32 := word <<< places ||| word >>> (32 - places)

/-- Moves the bits of a word down by some places, those that leave coming in above. -/
def rotateDown (word places : UInt32) : UInt32 :=
  if places = 0 then word else word >>> places ||| word <<< (32 - places)

/-- The words of a key spread out of a seed. -/
def keyWords : Nat → UInt64 → List UInt32
  | 0, _ => []
  | count + 1, state =>
    let state := state * 6364136223846793005 + 11634580027462260723
    let mixed := (((state >>> 18) ^^^ state) >>> 27).toUInt32
    rotateDown mixed (state >>> 59).toUInt32 :: keyWords count state

/-- The state of a block: constants, key, block number and an empty nonce. -/
def blockState (key : List UInt32) (block : Nat) : Array UInt32 :=
  ([0x61707865, 0x3320646e, 0x79622d32, 0x6b206574] ++ key ++
    [UInt32.ofNat block, UInt32.ofNat (block / 2 ^ (32 : Nat)), 0, 0]).toArray

/-- Mixes four words of a state. -/
def quarterRound (state : Array UInt32) (places : Nat × Nat × Nat × Nat) : Array UInt32 :=
  let (first, second, third, fourth) := places
  let a := state.getD first 0 + state.getD second 0
  let d := rotateUp (state.getD fourth 0 ^^^ a) 16
  let c := state.getD third 0 + d
  let b := rotateUp (state.getD second 0 ^^^ c) 12
  let a := a + b
  let d := rotateUp (d ^^^ a) 8
  let c := c + d
  let b := rotateUp (b ^^^ c) 7
  (((state.setIfInBounds first a).setIfInBounds second b).setIfInBounds third c).setIfInBounds
    fourth d

/-- The places mixed by a round over the columns and a round over the diagonals. -/
def doubleRound : List (Nat × Nat × Nat × Nat) :=
  [(0, 4, 8, 12), (1, 5, 9, 13), (2, 6, 10, 14), (3, 7, 11, 15),
    (0, 5, 10, 15), (1, 6, 11, 12), (2, 7, 8, 13), (3, 4, 9, 14)]

/-- The sixteen words of a block of the stream. -/
def blockWords (key : List UInt32) (block : Nat) : List UInt32 :=
  let state := blockState key block
  let mixed := (List.range 4).foldl (fun mixed _ => doubleRound.foldl quarterRound mixed) state
  (List.zipWith (· + ·) state.toList mixed.toList)

/-- The generator of a seed. -/
def seeded (seed : UInt64) : Generator :=
  let key := keyWords 8 seed
  ⟨fun index =>
    let words := blockWords key (index / 8)
    let low := words.getD (index % 8 * 2) 0
    let high := words.getD (index % 8 * 2 + 1) 0
    low.toUInt64 ||| high.toUInt64 <<< 32, 0⟩

end Generator

end Rego
