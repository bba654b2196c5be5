import Rego.Double.Basic

/-!
# Rounding to the nearest double

Every operation on doubles computes its exact rational result and rounds it once.  A nonnegative
rational is given by a numerator and a positive denominator; it is first measured in units, then
divided by the power of two that leaves fifty-three significant bits (or none, among the subnormal
values), and the quotient is rounded to a whole number with ties to the even neighbour.  A carry out
of the significand lands on the next rank by itself, since ranks count through the binades.
-/

namespace Rego

set_option autoImplicit false

open scoped Rego.Power

/-- The whole number nearest to a quotient; of two equally near ones the even one. -/
def roundHalfEven (numerator denominator : Nat) : Nat :=
  let quotient := numerator / denominator
  let doubled := 2 * (numerator % denominator)
  if doubled < denominator then quotient
  else if denominator < doubled then quotient + 1
  else quotient + quotient % 2

/-- The whole number nearest to a quotient; of two equally near ones the larger one. -/
def roundHalfUp (numerator denominator : Nat) : Nat :=
  (2 * numerator + denominator) / (2 * denominator)

namespace Double

/-- The rank nearest to a magnitude of `numerator / denominator` units, with ties to the even
significand; at or past `rankBound` when the magnitude is out of range. -/
def rankOfUnits (numerator denominator : Nat) : Nat :=
  let dropped := Nat.log2 (numerator / denominator) - 52
  dropped * 2 ^ (52 : Nat) + roundHalfEven numerator (denominator * 2 ^ dropped)

/-- The double nearest to a signed quotient. -/
def ofRatio (negative : Bool) (numerator denominator : Nat) : Double :=
  ofRank negative (rankOfUnits (numerator * unitsPerOne) denominator)

/-- The double nearest to an integer. -/
def ofInt (value : Int) : Double := ofRatio (value < 0) value.natAbs 1

/-- The double nearest to a whole number of units; a zero sum takes the given sign. -/
def ofUnits (zeroSign : Bool) (value : Int) : Double :=
  if value = 0 then signedZero zeroSign else ofRank (value < 0) (rankOfUnits value.natAbs 1)

/-! ## Arithmetic -/

/-- The opposite value. -/
def neg : Double → Double
  | .notNumber negative payload => .notNumber (!negative) payload
  | .infinite negative => .infinite (!negative)
  | .finite negative rank => .finite (!negative) rank

/-- Addition, rounded once. -/
def add : Double → Double → Double
  | .notNumber _ _, _ => .nan
  | _, .notNumber _ _ => .nan
  | .infinite left, .infinite right => if left = right then .infinite left else .nan
  | .infinite left, .finite _ _ => .infinite left
  | .finite _ _, .infinite right => .infinite right
  | .finite leftSign left, .finite rightSign right =>
    ofUnits (leftSign && rightSign)
      (signed leftSign (unitsOfRank left) + signed rightSign (unitsOfRank right))

/-- Subtraction, rounded once. -/
def sub (left right : Double) : Double := left.add right.neg

/-- Multiplication, rounded once. -/
def mul : Double → Double → Double
  | .notNumber _ _, _ => .nan
  | _, .notNumber _ _ => .nan
  | .infinite left, .infinite right => .infinite (left != right)
  | .infinite left, .finite right rank =>
    if rank.val = 0 then .nan else .infinite (left != right)
  | .finite left rank, .infinite right =>
    if rank.val = 0 then .nan else .infinite (left != right)
  | .finite leftSign left, .finite rightSign right =>
    ofRank (leftSign != rightSign)
      (rankOfUnits (unitsOfRank left * unitsOfRank right) unitsPerOne)

/-- Division, rounded once. -/
def div : Double → Double → Double
  | .notNumber _ _, _ => .nan
  | _, .notNumber _ _ => .nan
  | .infinite _, .infinite _ => .nan
  | .infinite left, .finite right _ => .infinite (left != right)
  | .finite left _, .infinite right => signedZero (left != right)
  | .finite leftSign left, .finite rightSign right =>
    if right.val = 0 then
      if left.val = 0 then .nan else .infinite (leftSign != rightSign)
    else ofRatio (leftSign != rightSign) (unitsOfRank left) (unitsOfRank right)

/-! ## Rounding to integers -/

/-- The greatest integer not above a finite double. -/
def floor? : Double → Option Int
  | .finite negative rank => some ((signed negative (unitsOfRank rank)).fdiv unitsPerOne)
  | _ => none

/-- The least integer not below a finite double. -/
def ceil? : Double → Option Int
  | .finite negative rank => some (-((-(signed negative (unitsOfRank rank))).fdiv unitsPerOne))
  | _ => none

/-- The integer part of a finite double. -/
def trunc? : Double → Option Int
  | .finite negative rank => some (signed negative (unitsOfRank rank / unitsPerOne))
  | _ => none

/-- The integer nearest to a finite double, halves away from zero. -/
def round? : Double → Option Int
  | .finite negative rank => some (signed negative (roundHalfUp (unitsOfRank rank) unitsPerOne))
  | _ => none

end Double

end Rego
