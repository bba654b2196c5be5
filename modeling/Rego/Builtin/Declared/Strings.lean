import Rego.Builtin.Metadata

/-!
# Declarations on strings

Signatures and descriptions of the builtins that search, take apart, build and format strings.
-/

namespace Rego.Declared

set_option autoImplicit false

/-- The declaration of `concat`. -/
def concat : Metadata where
  name := "concat"
  description := some "Joins a set or array of strings with a delimiter."
  categories := some ["strings"]
  declaration :=
    ⟨[.named "delimiter" (some "string to use as a delimiter") .string,
      .named "collection"
        (some "strings to join")
        (.any [.set (some .string), .array [] (some .string)])],
      some (.named "output" (some "the joined string") .string),
      none⟩

/-- The declaration of `contains`. -/
def contains : Metadata where
  name := "contains"
  description := some "Returns `true` if the search string is included in the base string"
  categories := some ["strings"]
  declaration :=
    ⟨[.named "haystack" (some "string to search in") .string,
      .named "needle" (some "substring to look for") .string],
      some (.named "result" (some "result of the containment check") .boolean),
      none⟩

/-- The declaration of `endswith`. -/
def endswith : Metadata where
  name := "endswith"
  description := some "Returns true if the search string ends with the base string."
  categories := some ["strings"]
  declaration :=
    ⟨[.named "search" (some "search string") .string,
      .named "base" (some "base string") .string],
      some (.named "result" (some "result of the suffix check") .boolean),
      none⟩

/-- The declaration of `format_int`. -/
def formatInt : Metadata where
  name := "format_int"
  description := some ("Returns the string representation of the number in the given base after " ++
      "rounding it down to an integer value.")
  categories := some ["strings"]
  declaration :=
    ⟨[.named "number" (some "number to format") .number,
      .named "base" (some "base of number representation to use") .number],
      some (.named "output" (some "formatted number") .string),
      none⟩

/-- The declaration of `indexof`. -/
def indexof : Metadata where
  name := "indexof"
  description := some "Returns the index of a substring contained inside a string."
  categories := some ["strings"]
  declaration :=
    ⟨[.named "haystack" (some "string to search in") .string,
      .named "needle" (some "substring to look for") .string],
      some (.named "output" (some "index of first occurrence, `-1` if not found") .number),
      none⟩

/-- The declaration of `indexof_n`. -/
def indexofN : Metadata where
  name := "indexof_n"
  description := some "Returns a list of all the indexes of a substring contained inside a string."
  categories := some ["strings"]
  declaration :=
    ⟨[.named "haystack" (some "string to search in") .string,
      .named "needle" (some "substring to look for") .string],
      some (.named "output"
        (some "all indices at which `needle` occurs in `haystack`, may be empty")
        (.array [] (some .number))),
      none⟩

/-- The declaration of `internal.template_string`. -/
def internalTemplateString : Metadata where
  name := "internal.template_string"
  description := some "Internal utility for handling OPA's template strings."
  declaration :=
    ⟨[.named "parts"
        (some "parts of the template string, or items to stringify")
        (.array [] (some (.any [])))],
      some (.string),
      none⟩

/-- The declaration of `lower`. -/
def lower : Metadata where
  name := "lower"
  description := some "Returns the input string but with all characters in lower-case."
  categories := some ["strings"]
  declaration :=
    ⟨[.named "x" (some "string that is converted to lower-case") .string],
      some (.named "y" (some "lower-case of x") .string),
      none⟩

/-- The declaration of `replace`. -/
def replace : Metadata where
  name := "replace"
  description := some "Replace replaces all instances of a sub-string."
  categories := some ["strings"]
  declaration :=
    ⟨[.named "x" (some "string being processed") .string,
      .named "old" (some "substring to replace") .string,
      .named "new" (some "string to replace `old` with") .string],
      some (.named "y" (some "string with replaced substrings") .string),
      none⟩

/-- The declaration of `split`. -/
def split : Metadata where
  name := "split"
  description :=
    some "Split returns an array containing elements of the input string split on a delimiter."
  categories := some ["strings"]
  declaration :=
    ⟨[.named "x" (some "string that is split") .string,
      .named "delimiter" (some "delimiter used for splitting") .string],
      some (.named "ys" (some "split parts") (.array [] (some .string))),
      none⟩

/-- The declaration of `sprintf`. -/
def sprintf : Metadata where
  name := "sprintf"
  description := some "Returns the given string, formatted."
  categories := some ["strings"]
  declaration :=
    ⟨[.named "format" (some "string with formatting verbs") .string,
      .named "values"
        (some "arguments to format into formatting verbs")
        (.array [] (some (.any [])))],
      some (.named "output" (some "`format` formatted by the values in `values`") .string),
      none⟩

/-- The declaration of `startswith`. -/
def startswith : Metadata where
  name := "startswith"
  description := some "Returns true if the search string begins with the base string."
  categories := some ["strings"]
  declaration :=
    ⟨[.named "search" (some "search string") .string,
      .named "base" (some "base string") .string],
      some (.named "result" (some "result of the prefix check") .boolean),
      none⟩

/-- The declaration of `strings.count`. -/
def stringsCount : Metadata where
  name := "strings.count"
  description := some "Returns the number of non-overlapping instances of a substring in a string."
  categories := some ["strings"]
  declaration :=
    ⟨[.named "search" (some "string to search in") .string,
      .named "substring" (some "substring to look for") .string],
      some (.named "output" (some "count of occurrences, `0` if not found") .number),
      none⟩

/-- The declaration of `strings.reverse`. -/
def stringsReverse : Metadata where
  name := "strings.reverse"
  description := some "Reverses a given string."
  categories := some ["strings"]
  declaration :=
    ⟨[.named "x" (some "string to reverse") .string],
      some (.named "y" (some "reversed string") .string),
      none⟩

/-- The declaration of `substring`. -/
def substring : Metadata where
  name := "substring"
  description := some ("Returns the portion of a string for a given `offset` and a `length`. If " ++
      "`length < 0`, `output` is the remainder of the string.")
  categories := some ["strings"]
  declaration :=
    ⟨[.named "value" (some "string to extract substring from") .string,
      .named "offset" (some "offset, must be positive") .number,
      .named "length" (some "length of the substring starting from `offset`") .number],
      some (.named "output" (some "substring of `value` from `offset`, of length `length`")
        .string),
      none⟩

/-- The declaration of `trim`. -/
def trim : Metadata where
  name := "trim"
  description := some ("Returns `value` with all leading or trailing instances of the `cutset` " ++
      "characters removed.")
  categories := some ["strings"]
  declaration :=
    ⟨[.named "value" (some "string to trim") .string,
      .named "cutset" (some "string of characters that are cut off") .string],
      some (.named "output" (some "string trimmed of `cutset` characters") .string),
      none⟩

/-- The declaration of `trim_left`. -/
def trimLeft : Metadata where
  name := "trim_left"
  description :=
    some "Returns `value` with all leading instances of the `cutset` characters removed."
  categories := some ["strings"]
  declaration :=
    ⟨[.named "value" (some "string to trim") .string,
      .named "cutset" (some "string of characters that are cut off on the left") .string],
      some (.named "output" (some "string left-trimmed of `cutset` characters") .string),
      none⟩

/-- The declaration of `trim_prefix`. -/
def trimPrefix : Metadata where
  name := "trim_prefix"
  description := some ("Returns `value` without the prefix. If `value` doesn't start with " ++
      "`prefix`, it is returned unchanged.")
  categories := some ["strings"]
  declaration :=
    ⟨[.named "value" (some "string to trim") .string,
      .named "prefix" (some "prefix to cut off") .string],
      some (.named "output" (some "string with `prefix` cut off") .string),
      none⟩

/-- The declaration of `trim_right`. -/
def trimRight : Metadata where
  name := "trim_right"
  description :=
    some "Returns `value` with all trailing instances of the `cutset` characters removed."
  categories := some ["strings"]
  declaration :=
    ⟨[.named "value" (some "string to trim") .string,
      .named "cutset" (some "string of characters that are cut off on the right") .string],
      some (.named "output" (some "string right-trimmed of `cutset` characters") .string),
      none⟩

/-- The declaration of `trim_space`. -/
def trimSpace : Metadata where
  name := "trim_space"
  description := some "Return the given string with all leading and trailing white space removed."
  categories := some ["strings"]
  declaration :=
    ⟨[.named "value" (some "string to trim") .string],
      some (.named "output" (some "string leading and trailing white space cut off") .string),
      none⟩

/-- The declaration of `trim_suffix`. -/
def trimSuffix : Metadata where
  name := "trim_suffix"
  description := some ("Returns `value` without the suffix. If `value` doesn't end with " ++
      "`suffix`, it is returned unchanged.")
  categories := some ["strings"]
  declaration :=
    ⟨[.named "value" (some "string to trim") .string,
      .named "suffix" (some "suffix to cut off") .string],
      some (.named "output" (some "string with `suffix` cut off") .string),
      none⟩

/-- The declaration of `upper`. -/
def upper : Metadata where
  name := "upper"
  description := some "Returns the input string but with all characters in upper-case."
  categories := some ["strings"]
  declaration :=
    ⟨[.named "x" (some "string that is converted to upper-case") .string],
      some (.named "y" (some "upper-case of x") .string),
      none⟩

end Rego.Declared
