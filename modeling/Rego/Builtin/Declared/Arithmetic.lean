import Rego.Builtin.Metadata

/-!
# Declarations of arithmetic

Signatures and descriptions of the builtins on numbers, bit patterns and ranges.
-/

namespace Rego.Declared

set_option autoImplicit false

/-- The declaration of `abs`. -/
def abs : Metadata where
  name := "abs"
  description := some "Returns the number without its sign."
  categories := some ["numbers"]
  declaration :=
    ⟨[.named "x" (some "the number to take the absolute value of") .number],
      some (.named "y" (some "the absolute value of `x`") .number),
      none⟩

/-- The declaration of `ceil`. -/
def ceil : Metadata where
  name := "ceil"
  description := some "Rounds the number _up_ to the nearest integer."
  categories := some ["numbers"]
  declaration :=
    ⟨[.named "x" (some "the number to round") .number],
      some (.named "y" (some "the result of rounding `x` _up_") .number),
      none⟩

/-- The declaration of `div`. -/
def div : Metadata where
  name := "div"
  description := some "Divides the first number by the second number."
  categories := some ["numbers"]
  declaration :=
    ⟨[.named "x" (some "the dividend") .number,
      .named "y" (some "the divisor") .number],
      some (.named "z" (some "the result of `x` divided by `y`") .number),
      none⟩
  operator := some "/"

/-- The declaration of `floor`. -/
def floor : Metadata where
  name := "floor"
  description := some "Rounds the number _down_ to the nearest integer."
  categories := some ["numbers"]
  declaration :=
    ⟨[.named "x" (some "the number to round") .number],
      some (.named "y" (some "the result of rounding `x` _down_") .number),
      none⟩

/-- The declaration of `minus`. -/
def minus : Metadata where
  name := "minus"
  description := some ("Minus subtracts the second number from the first number or computes the " ++
      "difference between two sets.")
  categories := some ["sets", "numbers"]
  declaration :=
    ⟨[.named "x" none (.any [.number, .set (some (.any []))]),
      .named "y" none (.any [.number, .set (some (.any []))])],
      some (.named "z" (some "the difference of `x` and `y`")
        (.any [.number, .set (some (.any []))])),
      none⟩
  operator := some "-"

/-- The declaration of `mul`. -/
def mul : Metadata where
  name := "mul"
  description := some "Multiplies two numbers."
  categories := some ["numbers"]
  declaration :=
    ⟨[.named "x" none .number,
      .named "y" none .number],
      some (.named "z" (some "the product of `x` and `y`") .number),
      none⟩
  operator := some "*"

/-- The declaration of `numbers.range`. -/
def numbersRange : Metadata where
  name := "numbers.range"
  description := some ("Returns an array of numbers in the given (inclusive) range. If `a==b`, " ++
      "then `range == [a]`; if `a > b`, then `range` is in descending order.")
  declaration :=
    ⟨[.named "a" (some "the start of the range") .number,
      .named "b" (some "the end of the range (inclusive)") .number],
      some (.named "range" (some "the range between `a` and `b`") (.array [] (some .number))),
      none⟩
  ignoresContext := false

/-- The declaration of `numbers.range_step`. -/
def numbersRangeStep : Metadata where
  name := "numbers.range_step"
  description := some ("Returns an array of numbers in the given (inclusive) range incremented " ++
      "by a positive step.\nIf \"a==b\", then \"range == [a]\"; if \"a > b\", then \"range\" is " ++
      "in descending order.\nIf the provided \"step\" is less then 1, an error will be " ++
      "thrown.\nIf \"b\" is not in the range of the provided \"step\", \"b\" won't be included " ++
      "in the result.")
  declaration :=
    ⟨[.named "a" (some "the start of the range") .number,
      .named "b" (some "the end of the range (inclusive)") .number,
      .named "step" (some "the step between numbers in the range") .number],
      some (.named "range"
        (some "the range between `a` and `b` in `step` increments")
        (.array [] (some .number))),
      none⟩
  ignoresContext := false

/-- The declaration of `plus`. -/
def plus : Metadata where
  name := "plus"
  description := some "Plus adds two numbers together."
  categories := some ["numbers"]
  declaration :=
    ⟨[.named "x" none .number,
      .named "y" none .number],
      some (.named "z" (some "the sum of `x` and `y`") .number),
      none⟩
  operator := some "+"

/-- The declaration of `rem`. -/
def rem : Metadata where
  name := "rem"
  description := some "Returns the remainder for of `x` divided by `y`, for `y != 0`."
  categories := some ["numbers"]
  declaration :=
    ⟨[.named "x" none .number,
      .named "y" none .number],
      some (.named "z" (some "the remainder") .number),
      none⟩
  operator := some "%"

/-- The declaration of `round`. -/
def round : Metadata where
  name := "round"
  description := some "Rounds the number to the nearest integer."
  categories := some ["numbers"]
  declaration :=
    ⟨[.named "x" (some "the number to round") .number],
      some (.named "y" (some "the result of rounding `x`") .number),
      none⟩

/-- The declaration of `bits.and`. -/
def bitsAnd : Metadata where
  name := "bits.and"
  description := some "Returns the bitwise \"AND\" of two integers."
  declaration :=
    ⟨[.named "x" (some "the first integer") .number,
      .named "y" (some "the second integer") .number],
      some (.named "z" (some "the bitwise AND of `x` and `y`") .number),
      none⟩

/-- The declaration of `bits.lsh`. -/
def bitsLsh : Metadata where
  name := "bits.lsh"
  description := some "Returns a new integer with its bits shifted `s` bits to the left."
  declaration :=
    ⟨[.named "x" (some "the integer to shift") .number,
      .named "s" (some "the number of bits to shift") .number],
      some (.named "z" (some "the result of shifting `x` `s` bits to the left") .number),
      none⟩

/-- The declaration of `bits.negate`. -/
def bitsNegate : Metadata where
  name := "bits.negate"
  description := some "Returns the bitwise negation (flip) of an integer."
  declaration :=
    ⟨[.named "x" (some "the integer to negate") .number],
      some (.named "z" (some "the bitwise negation of `x`") .number),
      none⟩

/-- The declaration of `bits.or`. -/
def bitsOr : Metadata where
  name := "bits.or"
  description := some "Returns the bitwise \"OR\" of two integers."
  declaration :=
    ⟨[.named "x" (some "the first integer") .number,
      .named "y" (some "the second integer") .number],
      some (.named "z" (some "the bitwise OR of `x` and `y`") .number),
      none⟩

/-- The declaration of `bits.rsh`. -/
def bitsRsh : Metadata where
  name := "bits.rsh"
  description := some "Returns a new integer with its bits shifted `s` bits to the right."
  declaration :=
    ⟨[.named "x" (some "the integer to shift") .number,
      .named "s" (some "the number of bits to shift") .number],
      some (.named "z" (some "the result of shifting `x` `s` bits to the right") .number),
      none⟩

/-- The declaration of `bits.xor`. -/
def bitsXor : Metadata where
  name := "bits.xor"
  description := some "Returns the bitwise \"XOR\" (exclusive-or) of two integers."
  declaration :=
    ⟨[.named "x" (some "the first integer") .number,
      .named "y" (some "the second integer") .number],
      some (.named "z" (some "the bitwise XOR of `x` and `y`") .number),
      none⟩

/-- The declaration of `product`. -/
def product : Metadata where
  name := "product"
  description := some "Multiplies elements of an array or set of numbers"
  categories := some ["aggregates"]
  declaration :=
    ⟨[.named "collection"
        (some "the set or array of numbers to multiply")
        (.any [.set (some .number), .array [] (some .number)])],
      some (.named "n" (some "the product of all elements") .number),
      none⟩

/-- The declaration of `sum`. -/
def sum : Metadata where
  name := "sum"
  description := some "Sums elements of an array or set of numbers."
  categories := some ["aggregates"]
  declaration :=
    ⟨[.named "collection"
        (some "the set or array of numbers to sum")
        (.any [.set (some .number), .array [] (some .number)])],
      some (.named "n" (some "the sum of all elements") .number),
      none⟩

end Rego.Declared
