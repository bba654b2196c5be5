import Rego.Value.Json

/-!
# Format strings

A format string is text with directives: a percent sign, flags, a width, a precision, and a verb.
`Format.pieces` reads it character by character; `Format.render` then fills the verbs with arguments
in order.  A verb without an argument and arguments without a verb are reported in the text itself.

A width may ask for more characters than a text can have in memory, and a precision for more digits
than numbers are written with.  Such a directive ends the program when it comes to write an argument
(`Format.excess?`).
-/

namespace Rego.Format

set_option autoImplicit false

open scoped Rego.Power

/-- What stands between the percent sign and the verb. -/
structure Directive where
  minus : Bool
  plus : Bool
  zero : Bool
  width : Option Nat
  precision : Option Nat
deriving DecidableEq

/-- The directive with nothing in it. -/
def Directive.empty : Directive := ⟨false, false, false, none, none⟩

/-- A part of a format string. -/
inductive Piece where
  | text (character : Char)
  | verb (directive : Directive) (verb : Char)
deriving DecidableEq

/-- Where reading stands: in text, or inside a directive among its flags, width or precision. -/
inductive Stage where
  | text
  | flags (directive : Directive)
  | width (directive : Directive) (digits : List Char)
  | precision (directive : Directive) (digits : List Char)
deriving DecidableEq

/-- The number of a digit run, if there are digits and it fits a word of sixty-four bits. -/
def sizeOf? (digits : List Char) : Option Nat :=
  let value := Radix.decimalValue digits
  if digits ≠ [] ∧ value < 2 ^ (64 : Nat) then some value else none

/-- A verb; a second percent sign stands for itself. -/
def finish (directive : Directive) (verb : Char) : Piece :=
  if verb = '%' then .text '%' else .verb directive verb

/-- What follows the width: a precision or the verb. -/
def afterWidth (directive : Directive) (character : Char) : Stage × List Piece :=
  if character = '.' then (.precision directive [], []) else (.text, [finish directive character])

/-- Reads one character. -/
def step (stage : Stage) (character : Char) : Stage × List Piece :=
  match stage with
  | .text => if character = '%' then (.flags .empty, []) else (.text, [.text character])
  | .flags directive =>
    match character with
    | '-' => (.flags { directive with minus := true }, [])
    | '+' => (.flags { directive with plus := true }, [])
    | '0' => (.flags { directive with zero := true }, [])
    | ' ' => (.flags directive, [])
    | '#' => (.flags directive, [])
    | _ =>
      if Radix.isDecimalDigit character then (.width directive [character], [])
      else afterWidth directive character
  | .width directive digits =>
    if Radix.isDecimalDigit character then (.width directive (digits ++ [character]), [])
    else afterWidth { directive with width := sizeOf? digits } character
  | .precision directive digits =>
    if Radix.isDecimalDigit character then (.precision directive (digits ++ [character]), [])
    else (.text, [finish { directive with precision := some ((sizeOf? digits).getD 0) } character])

/-- Reads characters from a stage on, and tells the stage at the end. -/
def scan (stage : Stage) : List Char → Stage × List Piece
  | [] => (stage, [])
  | character :: rest =>
    let (stage, pieces) := step stage character
    let (final, more) := scan stage rest
    (final, pieces ++ more)

/-- Whether reading a format string ends outside of directives. -/
def isComplete (format : List Char) : Bool := (scan .text format).1 == .text

/-- How many arguments a list of pieces takes. -/
def verbCount (pieces : List Piece) : Nat :=
  (pieces.filter fun piece => match piece with
    | .verb _ _ => true
    | .text _ => false).length

/-! ## Verbs -/

/-- The text of a value inside other text: strings stand without quotes. -/
def plain (value : Value) : List Char :=
  match value with
  | .string text => text.toList
  | value => value.literal

/-- Fills a text up to the width of a directive. -/
def pad (directive : Directive) (numeric : Bool) (text : List Char) : List Char :=
  match directive.width with
  | none => text
  | some width =>
    let missing := width - text.length
    if directive.minus then text ++ List.replicate missing ' '
    else if directive.zero && numeric then
      match text with
      | '-' :: digits => '-' :: (List.replicate missing '0' ++ digits)
      | digits => List.replicate missing '0' ++ digits
    else List.replicate missing ' ' ++ text

/-- Puts a plus sign in front of a text without a minus sign, if the directive asks for it. -/
def sign (directive : Directive) (text : List Char) : List Char :=
  if directive.plus && text.head? != some '-' then '+' :: text else text

/-- Writes the letters among digits in upper case. -/
def upperDigits (text : List Char) : List Char :=
  text.map fun character =>
    if 97 ≤ character.toNat ∧ character.toNat ≤ 122 then Char.ofNat (character.toNat - 32)
    else character

/-- The digits of a number of integral value in a radix. -/
def integerDigits? (radix : Nat) (number : Number) : Option (List Char) :=
  number.toInt?.map fun whole => Radix.integerText radix whole

/-- A number with one digit before the point, `places` after it, and an exponent of two digits or
more. -/
def scientific (mark : Char) (places : Nat) (number : Number) : List Char :=
  match number.toDouble with
  | .notNumber _ _ => "NaN".toList
  | .infinite negative => Double.withSign negative "inf".toList
  | .finite negative rank =>
    let decimal := Double.significant places rank
    let exponent := decimal.exponent + (places : Int)
    let exponent := if rank.val = 0 then 0 else exponent
    let digits := Radix.digits 10 exponent.natAbs
    Double.withSign negative (Decimal.positional decimal.digits places) ++
      mark :: (if exponent < 0 then '-' else '+') ::
        (List.replicate (2 - digits.length) '0' ++ digits)

/-- The two digits of a byte. -/
def byteDigits (byte : UInt8) : List Char :=
  [Radix.digitChar (byte.toNat / 16), Radix.digitChar (byte.toNat % 16)]

/-- The text of an argument that its verb does not fit. -/
def misfit (verb : Char) (argument : Value) : List Char :=
  '%' :: '!' :: verb :: '(' :: (argument.literal ++ [')'])

/-- The text of an argument under a verb, if the verb fits it. -/
def fitted? (directive : Directive) (verb : Char) (argument : Value) : Option (List Char) :=
  match verb, argument with
  | 'v', value => some (pad directive false (plain value))
  | 's', value => some (pad directive false (plain value))
  | 'd', .number number =>
    (integerDigits? 10 number).map fun digits => pad directive true (sign directive digits)
  | 'b', .number number => (integerDigits? 2 number).map (pad directive true)
  | 'o', .number number => (integerDigits? 8 number).map (pad directive true)
  | 'x', .number number => (integerDigits? 16 number).map (pad directive true)
  | 'X', .number number =>
    (integerDigits? 16 number).map fun digits => pad directive true (upperDigits digits)
  | 'x', .string text =>
    some (pad directive false ((Text.bytes text).flatMap byteDigits))
  | 'X', .string text =>
    some (pad directive false (upperDigits ((Text.bytes text).flatMap byteDigits)))
  | 'f', .number number =>
    some (pad directive true
      (sign directive (number.toDouble.fixedText (directive.precision.getD 6))))
  | 'F', .number number =>
    some (pad directive true
      (sign directive (number.toDouble.fixedText (directive.precision.getD 6))))
  | 'e', .number number =>
    some (pad directive true
      (sign directive (scientific 'e' (directive.precision.getD 6) number)))
  | 'E', .number number =>
    some (pad directive true
      (sign directive (scientific 'E' (directive.precision.getD 6) number)))
  | 'g', .number number => some (pad directive true (sign directive number.text.toList))
  | 't', .bool value => some (pad directive false (Value.bool value).literal)
  | 'q', .string text => some (pad directive false (Quoted.encode text))
  | _, _ => none

/-- The text of an argument under a verb. -/
def verbText (directive : Directive) (verb : Char) (argument : Value) : List Char :=
  (fitted? directive verb argument).getD (misfit verb argument)

/-! ## Limits -/

/-- What a directive asks too much of. -/
inductive Excess where
  | width
  | precision
deriving DecidableEq

/-- Whether a verb writes an argument with a precision. -/
def takesPrecision (verb : Char) (argument : Value) : Bool :=
  match argument with
  | .number _ => ['f', 'F', 'e', 'E'].contains verb
  | _ => false

/-- Whether filling the text of an argument up to a width would give a text with more than
`2 ^ 63 - 1` bytes, the most that there can be in memory. -/
def isTooWide (directive : Directive) (verb : Char) (argument : Value) : Bool :=
  match directive.width with
  | none => false
  | some width =>
    decide (2 ^ (63 : Nat) ≤ width) &&
      (fitted? { directive with width := none } verb argument).any fun text =>
        decide (text.length < width)

/-- What a directive asks too much of for an argument.  Precisions are words of sixteen bits. -/
def Directive.excess? (directive : Directive) (verb : Char) (argument : Value) : Option Excess :=
  if takesPrecision verb argument && decide (2 ^ (16 : Nat) ≤ directive.precision.getD 6) then
    some .precision
  else if isTooWide directive verb argument then some .width
  else none

/-- The first excess among pieces that are filled with arguments. -/
def fillExcess? : List Piece → List Value → Option Excess
  | .text _ :: rest, arguments => fillExcess? rest arguments
  | .verb directive verb :: rest, argument :: arguments =>
    (directive.excess? verb argument).or (fillExcess? rest arguments)
  | _, _ => none

/-- The first excess of a format string with arguments. -/
def excess? (format : List Char) (arguments : List Value) : Option Excess :=
  fillExcess? (scan .text format).2 arguments

/-! ## Filling in -/

/-- Fills pieces with arguments, and gives the arguments that are left over. -/
def fill : List Piece → List Value → List Char × List Value
  | [], arguments => ([], arguments)
  | .text character :: rest, arguments =>
    let (text, left) := fill rest arguments
    (character :: text, left)
  | .verb _ verb :: rest, [] =>
    let (text, left) := fill rest []
    ('%' :: '!' :: verb :: ("(MISSING)".toList ++ text), left)
  | .verb directive verb :: rest, argument :: arguments =>
    let (text, left) := fill rest arguments
    (verbText directive verb argument ++ text, left)

/-- What is written when the string ends inside a directive. -/
def unfinished (stage : Stage) : List Char :=
  match stage with
  | .text => []
  | _ => "%!(NOVERB)".toList

/-- What is written about arguments that no verb took. -/
def leftOver (arguments : List Value) : List Char :=
  match arguments with
  | [] => []
  | first :: rest => "%!(EXTRA ".toList ++ Value.literalItems (first :: rest) ++ [')']

/-- The text of a format string with arguments. -/
def render (format : List Char) (arguments : List Value) : List Char :=
  let (stage, pieces) := scan .text format
  let (text, left) := fill pieces arguments
  text ++ unfinished stage ++ leftOver left

end Rego.Format
