/-!
# Bytes written with symbols

What text encodings of bytes have in common: digits of a power-of-two base, written with the symbols
of an alphabet, and the reasons for which a text is not an encoding.  Positions count bytes of the
text.
-/

namespace Rego.Encoding

set_option autoImplicit false

/-- Why a text is not an encoding. -/
inductive DecodeError where
  | length (position : Nat)
  | symbol (position : Nat)
  | trailing (position : Nat)
  | padding (position : Nat)
deriving DecidableEq

/-- The wording of a decoding error. -/
def DecodeError.message : DecodeError → String
  | .length position => "invalid length at " ++ toString position
  | .symbol position => "invalid symbol at " ++ toString position
  | .trailing position => "non-zero trailing bits at " ++ toString position
  | .padding position => "invalid padding length at " ++ toString position

/-- The digit of a symbol, given by its place in an alphabet. -/
def digitOf? (alphabet : List Char) (symbol : UInt8) : Option Nat :=
  let place := alphabet.findIdx fun character => character == Char.ofUInt8 symbol
  if place < alphabet.length then some place else none

/-- The symbol of a digit. -/
def symbolOf (alphabet : List Char) (digit : Nat) : Char := alphabet.getD digit '='

/-- The digits of symbols, the first of which has a given position. -/
def digitsOf (alphabet : List Char) (position : Nat) :
    List UInt8 → Except DecodeError (List Nat)
  | [] => .ok []
  | symbol :: rest =>
    match digitOf? alphabet symbol with
    | none => .error (.symbol position)
    | some digit => (digitsOf alphabet (position + 1) rest).map fun digits => digit :: digits

end Rego.Encoding
