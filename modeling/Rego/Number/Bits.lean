import Rego.Number.Power

/-!
# Two's complement of unbounded width

An integer is read as an infinite sequence of bits, constantly zero from some place on for a
nonnegative integer and constantly one for a negative one.  `bit` is that sequence; the operations
below are its pointwise combinations and its shifts.
-/

namespace Rego.Bits

set_option autoImplicit false

open scoped Rego.Power

/-- The bit of an integer at a place, counted from the least significant one. -/
def bit : Int → Nat → Bool
  | .ofNat number, place => number.testBit place
  | .negSucc number, place => !number.testBit place

/-- The bits of the first number that the second does not have. -/
def without (left right : Nat) : Nat := left ^^^ (left &&& right)

/-- Bitwise conjunction. -/
def and : Int → Int → Int
  | .ofNat left, .ofNat right => .ofNat (left &&& right)
  | .ofNat left, .negSucc right => .ofNat (without left right)
  | .negSucc left, .ofNat right => .ofNat (without right left)
  | .negSucc left, .negSucc right => .negSucc (left ||| right)

/-- Bitwise disjunction. -/
def or : Int → Int → Int
  | .ofNat left, .ofNat right => .ofNat (left ||| right)
  | .ofNat left, .negSucc right => .negSucc (without right left)
  | .negSucc left, .ofNat right => .negSucc (without left right)
  | .negSucc left, .negSucc right => .negSucc (left &&& right)

/-- Bitwise exclusive disjunction. -/
def xor : Int → Int → Int
  | .ofNat left, .ofNat right => .ofNat (left ^^^ right)
  | .ofNat left, .negSucc right => .negSucc (left ^^^ right)
  | .negSucc left, .ofNat right => .negSucc (left ^^^ right)
  | .negSucc left, .negSucc right => .ofNat (left ^^^ right)

/-- Bitwise complement. -/
def complement (number : Int) : Int := -number - 1

/-- Moves every bit up by a number of places, filling with zeros. -/
def shiftLeft (number : Int) (places : Nat) : Int :=
  if number = 0 then 0 else number * 2 ^ places

/-- Moves every bit down by a number of places, dropping those that fall below the last one. -/
def shiftRight (number : Int) (places : Nat) : Int := number >>> places

end Rego.Bits
