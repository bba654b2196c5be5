import Rego.Builtin.Metadata

/-!
# Declarations of ordering

Signatures and descriptions of the builtins that compare and sort values.
-/

namespace Rego.Declared

set_option autoImplicit false

/-- The declaration of `equal`. -/
def equal : Metadata where
  name := "equal"
  categories := some ["comparison"]
  declaration :=
    ⟨[.named "x" none (.any []),
      .named "y" none (.any [])],
      some (.named "result" (some "true if `x` is equal to `y`; false otherwise") .boolean),
      none⟩
  operator := some "=="

/-- The declaration of `gt`. -/
def gt : Metadata where
  name := "gt"
  categories := some ["comparison"]
  declaration :=
    ⟨[.named "x" none (.any []),
      .named "y" none (.any [])],
      some (.named "result" (some "true if `x` is greater than `y`; false otherwise") .boolean),
      none⟩
  operator := some ">"

/-- The declaration of `gte`. -/
def gte : Metadata where
  name := "gte"
  categories := some ["comparison"]
  declaration :=
    ⟨[.named "x" none (.any []),
      .named "y" none (.any [])],
      some (.named "result" (some "true if `x` is greater or equal to `y`; false otherwise")
        .boolean),
      none⟩
  operator := some ">="

/-- The declaration of `lt`. -/
def lt : Metadata where
  name := "lt"
  categories := some ["comparison"]
  declaration :=
    ⟨[.named "x" none (.any []),
      .named "y" none (.any [])],
      some (.named "result" (some "true if `x` is less than `y`; false otherwise") .boolean),
      none⟩
  operator := some "<"

/-- The declaration of `lte`. -/
def lte : Metadata where
  name := "lte"
  categories := some ["comparison"]
  declaration :=
    ⟨[.named "x" none (.any []),
      .named "y" none (.any [])],
      some (.named "result" (some "true if `x` is less than or equal to `y`; false otherwise")
        .boolean),
      none⟩
  operator := some "<="

/-- The declaration of `neq`. -/
def neq : Metadata where
  name := "neq"
  categories := some ["comparison"]
  declaration :=
    ⟨[.named "x" none (.any []),
      .named "y" none (.any [])],
      some (.named "result" (some "true if `x` is not equal to `y`; false otherwise") .boolean),
      none⟩
  operator := some "!="

/-- The declaration of `max`. -/
def max : Metadata where
  name := "max"
  description := some "Returns the maximum value in a collection."
  categories := some ["aggregates"]
  declaration :=
    ⟨[.named "collection"
        (some "the set or array to be searched")
        (.any [.set (some (.any [])), .array [] (some (.any []))])],
      some (.named "n" (some "the maximum of all elements") (.any [])),
      none⟩

/-- The declaration of `min`. -/
def min : Metadata where
  name := "min"
  description := some "Returns the minimum value in a collection."
  categories := some ["aggregates"]
  declaration :=
    ⟨[.named "collection"
        (some "the set or array to be searched")
        (.any [.set (some (.any [])), .array [] (some (.any []))])],
      some (.named "n" (some "the minimum of all elements") (.any [])),
      none⟩

/-- The declaration of `sort`. -/
def sort : Metadata where
  name := "sort"
  description := some "Returns a sorted array."
  categories := some ["aggregates"]
  declaration :=
    ⟨[.named "collection"
        (some "the array or set to be sorted")
        (.any [.array [] (some (.any [])), .set (some (.any []))])],
      some (.named "n" (some "the sorted array") (.array [] (some (.any [])))),
      none⟩

end Rego.Declared
