import Rego.Number.Power
import Rego.Text.Case
import Rego.Text.Radix

/-!
# Universally unique identifiers

An identifier is a list of sixteen bytes.  It is written as hexadecimal digits in five groups, and
read from that form with or without braces, after `urn:uuid:`, or from the bare digits, in any
letter case.  The version is a group of four bits, the variant up to three bits that say who laid
the identifier out; some versions tell a time.
-/

namespace Rego.Uuid

set_option autoImplicit false

open scoped Rego.Power

/-- A byte of an identifier. -/
def byteAt (bytes : List UInt8) (index : Nat) : Nat := (bytes.getD index 0).toNat

/-- The number made of bytes from one index up to another, most significant first. -/
def number (bytes : List UInt8) (first last : Nat) : Nat :=
  ((bytes.take last).drop first).foldl (fun leading byte => leading * 256 + byte.toNat) 0

/-! ## Text -/

/-- The two hexadecimal digits of a byte. -/
def byteText (byte : UInt8) : List Char :=
  [Radix.digitChar (byte.toNat / 16), Radix.digitChar (byte.toNat % 16)]

/-- The written form of an identifier. -/
def text (bytes : List UInt8) : List Char :=
  (bytes.take 4).flatMap byteText ++ '-' :: (((bytes.drop 4).take 2).flatMap byteText ++
    '-' :: (((bytes.drop 6).take 2).flatMap byteText ++ '-' ::
      (((bytes.drop 8).take 2).flatMap byteText ++ '-' :: (bytes.drop 10).flatMap byteText)))

/-- The value of a hexadecimal digit. -/
def digit? (character : Char) : Option Nat :=
  (Radix.digitValue? character).filter (fun digit => decide (digit < 16))

/-- The bytes of pairs of hexadecimal digits. -/
def ofDigits? : List Char → Option (List UInt8)
  | [] => some []
  | [_] => none
  | high :: low :: rest => do
    let high ← digit? high
    let low ← digit? low
    let bytes ← ofDigits? rest
    return UInt8.ofNat (high * 16 + low) :: bytes

/-- The digits of groups of given lengths with hyphens between them. -/
def joinGroups? : List Nat → List Char → Option (List Char)
  | [], _ => none
  | [length], characters => if characters.length = length then some characters else none
  | length :: lengths, characters =>
    match characters.drop length with
    | '-' :: rest => (joinGroups? lengths rest).map fun digits => characters.take length ++ digits
    | _ => none

/-- The form with hyphens out of its braces or without its leading words. -/
def unwrap (characters : List Char) : List Char :=
  if characters.head? = some '\x7b' ∧ characters.getLast? = some '\x7d' then
    (characters.drop 1).dropLast
  else if (characters.take 9).map Text.lowerBasic = "urn:uuid:".toList then characters.drop 9
  else characters

/-- Reads an identifier. -/
def read? (characters : List Char) : Option (List UInt8) :=
  if characters.length = 32 then ofDigits? characters
  else (joinGroups? [8, 4, 4, 4, 12] (unwrap characters)).bind ofDigits?

/-- The identifier of version four made of random bytes. -/
def ofRandom (bytes : List UInt8) : List UInt8 :=
  (bytes.modify 6 fun byte => byte &&& 0x0F ||| 0x40).modify 8 fun byte => byte &&& 0x3F ||| 0x80

/-! ## Parts -/

/-- The version number. -/
def version (bytes : List UInt8) : Nat := byteAt bytes 6 / 16

/-- The name of the variant. -/
def variant (bytes : List UInt8) : String :=
  let byte := byteAt bytes 8
  if byte < 128 then "NCS"
  else if byte < 192 then "RFC4122"
  else if byte < 224 then "Microsoft"
  else "Future"

/-- The sequence number that tells identifiers of one time apart. -/
def clockSequence (bytes : List UInt8) : Nat := number bytes 8 10 % 2 ^ (14 : Nat)

/-- The text of the node that made the identifier. -/
def nodeText (bytes : List UInt8) : String :=
  String.intercalate "-" ((bytes.drop 10).map fun byte => String.ofList (byteText byte))

/-- How widely the node's address is valid and how many nodes it names. -/
def nodeScope (bytes : List UInt8) : String :=
  match byteAt bytes 10 % 4 with
  | 3 => "local:multicast"
  | 1 => "global:multicast"
  | 2 => "local:unicast"
  | _ => "global:unicast"

/-- The name of the domain of an identifier of version two. -/
def domain (bytes : List UInt8) : String :=
  match byteAt bytes 9 with
  | 0 => "Person"
  | 1 => "Group"
  | 2 => "Org"
  | other => "Domain" ++ toString other

/-- Ticks between the Gregorian reform, where identifiers start to count, and the Unix epoch. -/
def gregorianOffset : Nat := 0x01B21DD213814000

/-- The seconds and nanoseconds since the Unix epoch of a count of ticks, modulo `2 ^ 64` ticks. -/
def ofTicks (ticks : Nat) : Nat × Nat :=
  let sinceEpoch := (ticks + 2 ^ (64 : Nat) - gregorianOffset) % 2 ^ (64 : Nat)
  (sinceEpoch / 10 ^ (7 : Nat), sinceEpoch % 10 ^ (7 : Nat) * 100)

/-- The seconds and nanoseconds since the Unix epoch, for the versions that tell a time. -/
def time? (bytes : List UInt8) : Option (Nat × Nat) :=
  match version bytes with
  | 1 | 2 =>
    some (ofTicks (number bytes 6 8 % 2 ^ (12 : Nat) * 2 ^ (48 : Nat) +
      number bytes 4 6 * 2 ^ (32 : Nat) + number bytes 0 4))
  | 6 => some (ofTicks (number bytes 0 6 * 2 ^ (12 : Nat) + number bytes 6 8 % 2 ^ (12 : Nat)))
  | 7 =>
    let milliseconds := number bytes 0 6
    some (milliseconds / 1000, milliseconds % 1000 * 1000000)
  | _ => none

/-- The nanoseconds since the Unix epoch, modulo `2 ^ 64`. -/
def nanoseconds? (bytes : List UInt8) : Option Nat :=
  (time? bytes).map fun (seconds, nanoseconds) =>
    (seconds * 1000000000 + nanoseconds) % 2 ^ (64 : Nat)

end Rego.Uuid
