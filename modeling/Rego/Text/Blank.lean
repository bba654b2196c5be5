/-!
# White space and borders

The white space of this library is the Unicode property `White_Space`, a union of short ranges of
code points.  Trimming removes the longest border whose characters all satisfy a test, at one end or
at both.
-/

namespace Rego.Text

set_option autoImplicit false

/-- The code point ranges of the Unicode property `White_Space`, as first and last members. -/
def blankRanges : List (Nat × Nat) :=
  [(0x9, 0xD), (0x20, 0x20), (0x85, 0x85), (0xA0, 0xA0), (0x1680, 0x1680), (0x2000, 0x200A),
    (0x2028, 0x2029), (0x202F, 0x202F), (0x205F, 0x205F), (0x3000, 0x3000)]

/-- Whether a character has the Unicode property `White_Space`. -/
def isBlank (character : Char) : Bool :=
  blankRanges.any fun range => range.1 ≤ character.toNat && character.toNat ≤ range.2

/-- Removes the longest suffix whose members all satisfy a test. -/
def dropEndWhile {α : Type} (test : α → Bool) (items : List α) : List α :=
  (items.reverse.dropWhile test).reverse

/-- Removes the longest prefix and then the longest suffix whose characters satisfy a test. -/
def trimWhile (test : Char → Bool) (characters : List Char) : List Char :=
  dropEndWhile test (characters.dropWhile test)

end Rego.Text
