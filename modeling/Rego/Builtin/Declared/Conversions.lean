import Rego.Builtin.Metadata

/-!
# Declarations of conversions

Signatures and descriptions of the builtins that tell kinds apart and read numbers and quantities.
-/

namespace Rego.Declared

set_option autoImplicit false

/-- The declaration of `to_number`. -/
def toNumber : Metadata where
  name := "to_number"
  description := some ("Converts a string, bool, or number value to a number: Strings are " ++
      "converted to numbers using `strconv.Atoi`, Boolean `false` is converted to 0 and `true` " ++
      "is converted to 1.")
  categories := some ["conversions"]
  declaration :=
    ⟨[.named "x" (some "value to convert") (.any [.number, .string, .boolean, .null])],
      some (.named "num" (some "the numeric representation of `x`") .number),
      none⟩

/-- The declaration of `is_array`. -/
def isArray : Metadata where
  name := "is_array"
  description := some "Returns `true` if the input value is an array."
  categories := some ["types"]
  declaration :=
    ⟨[.named "x" (some "input value") (.any [])],
      some (.named "result" (some "`true` if `x` is an array, `false` otherwise.") .boolean),
      none⟩

/-- The declaration of `is_boolean`. -/
def isBoolean : Metadata where
  name := "is_boolean"
  description := some "Returns `true` if the input value is a boolean."
  categories := some ["types"]
  declaration :=
    ⟨[.named "x" (some "input value") (.any [])],
      some (.named "result" (some "`true` if `x` is an boolean, `false` otherwise.") .boolean),
      none⟩

/-- The declaration of `is_null`. -/
def isNull : Metadata where
  name := "is_null"
  description := some "Returns `true` if the input value is null."
  categories := some ["types"]
  declaration :=
    ⟨[.named "x" (some "input value") (.any [])],
      some (.named "result" (some "`true` if `x` is null, `false` otherwise.") .boolean),
      none⟩

/-- The declaration of `is_number`. -/
def isNumber : Metadata where
  name := "is_number"
  description := some "Returns `true` if the input value is a number."
  categories := some ["types"]
  declaration :=
    ⟨[.named "x" (some "input value") (.any [])],
      some (.named "result" (some "`true` if `x` is a number, `false` otherwise.") .boolean),
      none⟩

/-- The declaration of `is_object`. -/
def isObject : Metadata where
  name := "is_object"
  description := some "Returns true if the input value is an object"
  categories := some ["types"]
  declaration :=
    ⟨[.named "x" (some "input value") (.any [])],
      some (.named "result" (some "`true` if `x` is an object, `false` otherwise.") .boolean),
      none⟩

/-- The declaration of `is_set`. -/
def isSet : Metadata where
  name := "is_set"
  description := some "Returns `true` if the input value is a set."
  categories := some ["types"]
  declaration :=
    ⟨[.named "x" (some "input value") (.any [])],
      some (.named "result" (some "`true` if `x` is a set, `false` otherwise.") .boolean),
      none⟩

/-- The declaration of `is_string`. -/
def isString : Metadata where
  name := "is_string"
  description := some "Returns `true` if the input value is a string."
  categories := some ["types"]
  declaration :=
    ⟨[.named "x" (some "input value") (.any [])],
      some (.named "result" (some "`true` if `x` is a string, `false` otherwise.") .boolean),
      none⟩

/-- The declaration of `type_name`. -/
def typeName : Metadata where
  name := "type_name"
  description := some "Returns the type of its input value."
  categories := some ["types"]
  declaration :=
    ⟨[.named "x" (some "input value") (.any [])],
      some (.named "type" (some ("one of \"null\", \"boolean\", \"number\", \"string\", " ++
          "\"array\", \"object\", \"set\""))
        .string),
      none⟩

/-- The declaration of `units.parse`. -/
def unitsParse : Metadata where
  name := "units.parse"
  description := some ("Converts strings like \"10G\", \"5K\", \"4M\", \"1500m\", and the like " ++
      "into a number.\nThis number can be a non-integer, such as 1.5, 0.22, etc. Scientific " ++
      "notation is supported,\nallowing values such as \"1e-3K\" (1) or \"2.5e6M\" (2.5 million " ++
      "M).\nSupports standard metric decimal and binary SI units (e.g., K, Ki, M, Mi, G, Gi, " ++
      "etc.) where\nm, K, M, G, T, P, and E are treated as decimal units and Ki, Mi, Gi, Ti, " ++
      "Pi, and Ei are treated as\nbinary units.\nNote that 'm' and 'M' are case-sensitive to " ++
      "allow distinguishing between \"milli\" and \"mega\" units\nrespectively. Other units are " ++
      "case-insensitive.")
  declaration :=
    ⟨[.named "x" (some "the unit to parse") .string],
      some (.named "y" (some "the parsed number") .number),
      none⟩

/-- The declaration of `units.parse_bytes`. -/
def unitsParseBytes : Metadata where
  name := "units.parse_bytes"
  description := some ("Converts strings like \"10GB\", \"5K\", \"4mb\", or \"1e6KB\" into an " ++
      "integer number of bytes.\nSupports standard byte units (e.g., KB, KiB, etc.) where KB, " ++
      "MB, GB, and TB are treated as decimal\nunits, and KiB, MiB, GiB, and TiB are treated as " ++
      "binary units. Scientific notation is supported,\nenabling values like \"1.5e3MB\" " ++
      "(1500MB) or \"2e6GiB\" (2 million GiB).\nThe bytes symbol (b/B) in the unit is optional; " ++
      "omitting it will yield the same result (e.g., \"Mi\"\nand \"MiB\" are equivalent).")
  declaration :=
    ⟨[.named "x" (some "the byte unit to parse") .string],
      some (.named "y" (some "the parsed number") .number),
      none⟩

end Rego.Declared
