import Rego.Number.Power

/-!
# Doubles as exact dyadic values

A double is a signed infinity, a NaN with a sign and a payload, or a sign together with a *rank*:
its position among the nonnegative finite doubles in increasing order.  Rank `r` and rank `r + 1`
are neighbours, rank zero is zero, and the ranks fill the interval below `2047 * 2 ^ 52`.  The rank
is what the sixty-three low bits of the interchange format spell, so the format needs no separate
treatment; the infinities and the NaNs continue the count.

The value behind a rank is a whole number of *units*, one unit being `2 ^ -1074`, the least positive
double.  All questions about values (integrality, order, rounding) are questions about natural
numbers of units; no approximate arithmetic occurs anywhere.
-/

namespace Rego

set_option autoImplicit false

open scoped Rego.Power

/-- A binary floating point value with fifty-three significant bits. -/
inductive Double where
  | notNumber (negative : Bool) (payload : Fin (2 ^ (52 : Nat) - 1))
  | infinite (negative : Bool)
  | finite (negative : Bool) (rank : Fin (2047 * 2 ^ (52 : Nat)))
deriving DecidableEq

namespace Double

/-- The positive quiet NaN. -/
@[match_pattern] def nan : Double := .notNumber false ⟨2251799813685247, by decide⟩

/-- How many finite magnitudes there are. -/
def rankBound : Nat := 2047 * 2 ^ (52 : Nat)

/-- The power of two that a unit is a fraction of one by. -/
def unitExponent : Nat := 1074

/-- The number of units in one. -/
def unitsPerOne : Nat := 2 ^ unitExponent

/-! ## Ranks and units -/

/-- The integer significand of the magnitude with a given rank. -/
def significandOfRank (rank : Nat) : Nat :=
  if rank < 2 ^ (52 : Nat) then rank else rank % 2 ^ (52 : Nat) + 2 ^ (52 : Nat)

/-- The power of two that scales the significand of a given rank to units. -/
def scaleOfRank (rank : Nat) : Nat := rank / 2 ^ (52 : Nat) - 1

/-- The magnitude with a given rank, in units. -/
def unitsOfRank (rank : Nat) : Nat := significandOfRank rank * 2 ^ scaleOfRank rank

/-- The finite double of a sign and a rank; a rank past the last finite one gives the infinity. -/
def ofRank (negative : Bool) (rank : Nat) : Double :=
  if bound : rank < 2047 * 2 ^ (52 : Nat) then .finite negative ⟨rank, bound⟩
  else .infinite negative

/-- The positive zero. -/
def zero : Double := .finite false ⟨0, by decide⟩

/-- The signed zeros. -/
def signedZero (negative : Bool) : Double := .finite negative ⟨0, by decide⟩

/-- The finite double of the largest magnitude with a given sign. -/
def largest (negative : Bool) : Double := .finite negative ⟨2047 * 2 ^ (52 : Nat) - 1, by decide⟩

/-- A magnitude with a sign, as an integer. -/
def signed (negative : Bool) (magnitude : Nat) : Int :=
  if negative then -(magnitude : Int) else (magnitude : Int)

/-- The exact value of a finite double in units. -/
def units? : Double → Option Int
  | .finite negative rank => some (signed negative (unitsOfRank rank))
  | _ => none

/-! ## Questions about one value -/

/-- Neither a NaN nor an infinity. -/
def isFinite : Double → Bool
  | .finite _ _ => true
  | _ => false

/-- Zero of either sign. -/
def isZero : Double → Bool
  | .finite _ rank => rank.val == 0
  | _ => false

/-- Strictly below zero; the negative zero is not. -/
def isNegative : Double → Bool
  | .notNumber _ _ => false
  | .infinite negative => negative
  | .finite negative rank => negative && rank.val != 0

/-- The integer a double stands for, when it is finite and has no fraction. -/
def toInt? : Double → Option Int
  | .finite negative rank =>
    if unitsOfRank rank % unitsPerOne = 0 then
      some (signed negative (unitsOfRank rank / unitsPerOne))
    else none
  | _ => none

/-- The magnitude with the sign removed. -/
def abs : Double → Double
  | .notNumber _ payload => .notNumber false payload
  | .infinite _ => .infinite false
  | .finite _ rank => .finite false rank

/-! ## The total order -/

/-- The sign bit. -/
def signBit : Double → Bool
  | .notNumber negative _ => negative
  | .infinite negative => negative
  | .finite negative _ => negative

/-- What the bits below the sign bit spell: the rank, continued by the infinity and the NaNs. -/
def magnitudeBits : Double → Nat
  | .notNumber _ payload => rankBound + 1 + payload.val
  | .infinite _ => rankBound
  | .finite _ rank => rank.val

/-- Position of a double in the total order of all doubles, in which the negative zero stands just
below the positive one and the NaNs beyond the infinities of their sign. -/
def position (value : Double) : Int :=
  if value.signBit then -(value.magnitudeBits : Int) - 1 else value.magnitudeBits

/-- Comparison by `position`. -/
def totalCompare (left right : Double) : Ordering := compare left.position right.position

/-! ## The interchange format -/

/-- The sixty-four bits of a double. -/
def toBits (value : Double) : Nat :=
  value.magnitudeBits + (if value.signBit then 2 ^ (63 : Nat) else 0)

/-- The double with given bits. -/
def ofBits (bits : Nat) : Double :=
  let negative := decide (2 ^ (63 : Nat) ≤ bits % 2 ^ (64 : Nat))
  if above : rankBound < bits % 2 ^ (63 : Nat) then
    .notNumber negative
      ⟨bits % 2 ^ (63 : Nat) - rankBound - 1, by unfold rankBound at above ⊢; omega⟩
  else ofRank negative (bits % 2 ^ (63 : Nat))

end Double

end Rego
