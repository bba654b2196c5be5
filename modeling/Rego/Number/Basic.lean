import Rego.Double.Rounding

/-!
# Numbers

A number is an integer or a double.  Integers that fit a machine word are kept as words and all
others as big integers, which carry the proof that they do not fit, so every integer has one
representation.  `Number.ofInt` chooses it.

Equality and order are those of exact values: whole doubles compare as integers with integers, and a
comparison with a fractional or infinite double goes through `orderKey`, which only has to place an
integer on the right side of it.
-/

namespace Rego

set_option autoImplicit false

open scoped Rego.Power

/-- Whether an integer fits a signed machine word of sixty-four bits. -/
def Number.FitsWord (value : Int) : Prop := -(2 ^ (63 : Nat)) ≤ value ∧ value < 2 ^ (63 : Nat)

instance (value : Int) : Decidable (Number.FitsWord value) :=
  inferInstanceAs (Decidable (_ ∧ _))

/-- What the program says when it ends over a difference that is no machine word. -/
def Number.overflowNote : String := "attempt to subtract with overflow"

/-- An arbitrary precision number. -/
inductive Number where
  | word (value : Int64)
  | big (value : Int) {outside : ¬Number.FitsWord value}
  | float (value : Double)
deriving DecidableEq

namespace Number

/-- The number of an integer, a word whenever it fits. -/
def ofInt (value : Int) : Number :=
  if outside : ¬FitsWord value then @big value outside
  else .word (Int64.ofInt value)

/-- The number of a natural number. -/
def ofNat (value : Nat) : Number := ofInt value

/-- The largest magnitude below which every integer is a double. -/
def exactDoubleBound : Nat := 2 ^ (53 : Nat)

/-- The number of a double that an operation produced: whole values of small magnitude become
integers. -/
def ofDouble (value : Double) : Number :=
  match value.toInt? with
  | some whole => if whole.natAbs < exactDoubleBound then ofInt whole else .float value
  | none => .float value

/-! ## Views -/

/-- The integer of a word or a big integer. -/
def integer? : Number → Option Int
  | .word value => some value.toInt
  | .big value => some value
  | .float _ => none

/-- The integer a number stands for, in whatever representation. -/
def toInt? : Number → Option Int
  | .word value => some value.toInt
  | .big value => some value
  | .float value => value.toInt?

/-- The nearest double. -/
def toDouble : Number → Double
  | .word value => Double.ofInt value.toInt
  | .big value => Double.ofInt value
  | .float value => value

/-- Whether a number is an integer. -/
def isInteger (number : Number) : Bool := number.toInt?.isSome

/-- Zero in any representation; a big integer never is. -/
def isZero : Number → Bool
  | .word value => value == 0
  | .big _ => false
  | .float value => value.isZero

/-- Strictly below zero. -/
def isNegative : Number → Bool
  | .word value => value < 0
  | .big value => value < 0
  | .float value => value.isNegative

/-- Neither a NaN nor an infinity. -/
def isFinite : Number → Bool
  | .float value => value.isFinite
  | _ => true

/-- The integer of a number when it fits a signed word; a big integer never does. -/
def toSigned? : Number → Option Int
  | .word value => some value.toInt
  | .big _ => none
  | .float value => value.toInt?.filter (fun whole => decide (FitsWord whole))

/-- The natural number of a number when it fits an unsigned word of sixty-four bits. -/
def toUnsigned? (number : Number) : Option Nat :=
  match number.toInt? with
  | some (.ofNat whole) => if whole < 2 ^ (64 : Nat) then some whole else none
  | _ => none

/-! ## Order -/

/-- A double on the same side of every fractional or infinite double as the number. -/
def orderKey : Number → Double
  | .word value => Double.ofInt value.toInt
  | .big value => Double.largest (value < 0)
  | .float value => value

/-- The order of exact values; a NaN is beyond the infinities of its sign. -/
def compare (left right : Number) : Ordering :=
  match left.toInt?, right.toInt? with
  | some leftWhole, some rightWhole => Ord.compare leftWhole rightWhole
  | _, _ => Double.totalCompare left.orderKey right.orderKey

instance : Ord Number := ⟨compare⟩

/-- Equality of exact values. -/
instance : BEq Number := ⟨fun left right => left.compare right == .eq⟩

end Number

end Rego
