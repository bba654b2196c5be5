import Rego.Builtin.Metadata

/-!
# Declarations on collections

Signatures and descriptions of the builtins on arrays, objects and sets.
-/

namespace Rego.Declared

set_option autoImplicit false

/-- The declaration of `count`. -/
def count : Metadata where
  name := "count"
  description := some ("Count takes a collection or string and returns the number of elements " ++
      "(or characters) in it.")
  categories := some ["aggregates"]
  declaration :=
    ⟨[.named "collection"
        (some "the set/array/object/string to be counted")
        (.any [.set (some (.any [])), .array [] (some (.any [])),
          .object [] (some (.any [], .any [])), .string])],
      some (.named "n"
        (some "the count of elements, key/val pairs, or characters, respectively.")
        .number),
      none⟩

/-- The declaration of `array.concat`. -/
def arrayConcat : Metadata where
  name := "array.concat"
  description := some "Concatenates two arrays."
  declaration :=
    ⟨[.named "x" (some "the first array") (.array [] (some (.any []))),
      .named "y" (some "the second array") (.array [] (some (.any [])))],
      some (.named "z" (some "the concatenation of `x` and `y`") (.array [] (some (.any [])))),
      none⟩

/-- The declaration of `array.reverse`. -/
def arrayReverse : Metadata where
  name := "array.reverse"
  description := some "Returns the reverse of a given array."
  declaration :=
    ⟨[.named "arr" (some "the array to be reversed") (.array [] (some (.any [])))],
      some (.named "rev"
        (some "an array containing the elements of `arr` in reverse order")
        (.array [] (some (.any [])))),
      none⟩

/-- The declaration of `array.slice`. -/
def arraySlice : Metadata where
  name := "array.slice"
  description := some ("Returns a slice of a given array. If `start` is greater or equal than " ++
      "`stop`, `slice` is `[]`.")
  declaration :=
    ⟨[.named "arr" (some "the array to be sliced") (.array [] (some (.any []))),
      .named "start"
        (some "the start index of the returned slice; if less than zero, it's clamped to 0")
        .number,
      .named "stop" (some ("the stop index of the returned slice; if larger than `count(arr)`, " ++
          "it's clamped to `count(arr)`"))
        .number],
      some (.named "slice" (some ("the subslice of `array`, from `start` to `end`, including " ++
          "`arr[start]`, but excluding `arr[end]`"))
        (.array [] (some (.any [])))),
      none⟩

/-- The declaration of `object.get`. -/
def objectGet : Metadata where
  name := "object.get"
  description := some ("Returns value of an object's key if present, otherwise a default. If " ++
      "the supplied `key` is an `array`, then `object.get` will search through a nested object " ++
      "or array using each key in turn. For example: `object.get(\x7b\"a\": [\x7b \"b\": true " ++
      "\x7d]\x7d, [\"a\", 0, \"b\"], false)` results in `true`.")
  declaration :=
    ⟨[.named "object" (some "object to get `key` from") (.object [] (some (.any [], .any []))),
      .named "key" (some "key to lookup in `object`") (.any []),
      .named "default" (some "default to use when lookup fails") (.any [])],
      some (.named "value" (some "`object[key]` if present, otherwise `default`") (.any [])),
      none⟩

/-- The declaration of `object.keys`. -/
def objectKeys : Metadata where
  name := "object.keys"
  description := some ("Returns a set of an object's keys. For example: `object.keys(\x7b\"a\": " ++
      "1, \"b\": true, \"c\": \"d\")` results in `\x7b\"a\", \"b\", \"c\"\x7d`.")
  declaration :=
    ⟨[.named "object" (some "object to get keys from") (.object [] (some (.any [], .any [])))],
      some (.named "value" (some "set of `object`'s keys") (.set (some (.any [])))),
      none⟩

/-- The declaration of `object.union`. -/
def objectUnion : Metadata where
  name := "object.union"
  description := some ("Creates a new object of the asymmetric union of two objects. For " ++
      "example: `object.union(\x7b\"a\": 1, \"b\": 2, \"c\": \x7b\"d\": 3\x7d\x7d, \x7b\"a\": " ++
      "7, \"c\": \x7b\"d\": 4, \"e\": 5\x7d\x7d)` will result in `\x7b\"a\": 7, \"b\": 2, " ++
      "\"c\": \x7b\"d\": 4, \"e\": 5\x7d\x7d`.")
  declaration :=
    ⟨[.named "a" (some "left-hand object") (.object [] (some (.any [], .any []))),
      .named "b" (some "right-hand object") (.object [] (some (.any [], .any [])))],
      some (.named "output" (some ("a new object which is the result of an asymmetric recursive " ++
          "union of two objects where conflicts are resolved by choosing the key from the " ++
          "right-hand object `b`"))
        (.any [])),
      none⟩

/-- The declaration of `object.union_n`. -/
def objectUnionN : Metadata where
  name := "object.union_n"
  description := some ("Creates a new object that is the asymmetric union of all objects merged " ++
      "from left to right. For example: `object.union_n([\x7b\"a\": 1\x7d, \x7b\"b\": 2\x7d, " ++
      "\x7b\"a\": 3\x7d])` will result in `\x7b\"b\": 2, \"a\": 3\x7d`.")
  declaration :=
    ⟨[.named "objects"
        (some "list of objects to merge")
        (.array [] (some (.object [] (some (.any [], .any [])))))],
      some (.named "output" (some ("asymmetric recursive union of all objects in `objects`, " ++
          "merged from left to right, where conflicts are resolved by choosing the key from the " ++
          "right-hand object"))
        (.any [])),
      none⟩

/-- The declaration of `and`. -/
def and : Metadata where
  name := "and"
  description := some "Returns the intersection of two sets."
  categories := some ["sets"]
  declaration :=
    ⟨[.named "x" (some "the first set") (.set (some (.any []))),
      .named "y" (some "the second set") (.set (some (.any [])))],
      some (.named "z" (some "the intersection of `x` and `y`") (.set (some (.any [])))),
      none⟩
  operator := some "&"

/-- The declaration of `intersection`. -/
def intersection : Metadata where
  name := "intersection"
  description := some "Returns the intersection of the given input sets."
  categories := some ["sets"]
  declaration :=
    ⟨[.named "xs" (some "set of sets to intersect") (.set (some (.set (some (.any [])))))],
      some (.named "y" (some "the intersection of all `xs` sets") (.set (some (.any [])))),
      none⟩

/-- The declaration of `or`. -/
def or : Metadata where
  name := "or"
  description := some "Returns the union of two sets."
  categories := some ["sets"]
  declaration :=
    ⟨[.named "x" none (.set (some (.any []))),
      .named "y" none (.set (some (.any [])))],
      some (.named "z" (some "the union of `x` and `y`") (.set (some (.any [])))),
      none⟩
  operator := some "|"

/-- The declaration of `union`. -/
def union : Metadata where
  name := "union"
  description := some "Returns the union of the given input sets."
  categories := some ["sets"]
  declaration :=
    ⟨[.named "xs" (some "set of sets to merge") (.set (some (.set (some (.any [])))))],
      some (.named "y" (some "the union of all `xs` sets") (.set (some (.any [])))),
      none⟩

/-- The declaration of `internal.member_2`. -/
def internalMember2 : Metadata where
  name := "internal.member_2"
  declaration :=
    ⟨[.any [],
      .any []],
      some (.boolean),
      none⟩
  operator := some "in"

/-- The declaration of `internal.member_3`. -/
def internalMember3 : Metadata where
  name := "internal.member_3"
  declaration :=
    ⟨[.any [],
      .any [],
      .any []],
      some (.boolean),
      none⟩
  operator := some "in"

end Rego.Declared
