/-!
# UTF-8

Texts and their bytes.  `bytes` encodes and `ofBytes?` decodes well-formed bytes only.  `ofBytes`
decodes any bytes: a well-formed sequence gives its character, and the longest beginning of one that
is not continued gives one replacement character.
-/

namespace Rego.Text

set_option autoImplicit false

/-- The UTF-8 bytes of a text. -/
def bytes (text : String) : List UInt8 := text.toUTF8.data.toList

/-- The text of UTF-8 bytes, if they are well-formed. -/
def ofBytes? (bytes : List UInt8) : Option String := String.fromUTF8? (ByteArray.mk bytes.toArray)

/-- The character that stands for undecodable bytes. -/
def replacement : Char := '\ufffd'

/-- The six low bits of a byte. -/
def lowBits (byte : UInt8) : Nat := byte.toNat % 64

/-- Whether a byte continues a sequence. -/
def continues (byte : UInt8) : Bool := 0x80 ≤ byte && byte ≤ 0xBF

/-- Whether the second byte of a sequence of three is allowed after the first. -/
def continuesThree (first second : UInt8) : Bool :=
  if first = 0xE0 then 0xA0 ≤ second && second ≤ 0xBF
  else if first = 0xED then 0x80 ≤ second && second ≤ 0x9F
  else continues second

/-- Whether the second byte of a sequence of four is allowed after the first. -/
def continuesFour (first second : UInt8) : Bool :=
  if first = 0xF0 then 0x90 ≤ second && second ≤ 0xBF
  else if first = 0xF4 then 0x80 ≤ second && second ≤ 0x8F
  else continues second

/-- The characters of any bytes. -/
def decode : List UInt8 → List Char
  | [] => []
  | first :: tail =>
    if first < 0x80 then Char.ofNat first.toNat :: decode tail
    else if first < 0xC2 then replacement :: decode tail
    else if first < 0xE0 then
      match tail with
      | [] => [replacement]
      | second :: tail =>
        if continues second then
          Char.ofNat (first.toNat % 32 * 64 + lowBits second) :: decode tail
        else replacement :: decode (second :: tail)
    else if first < 0xF0 then
      match tail with
      | [] => [replacement]
      | second :: tail =>
        if continuesThree first second then
          match tail with
          | [] => [replacement]
          | third :: tail =>
            if continues third then
              Char.ofNat ((first.toNat % 16 * 64 + lowBits second) * 64 + lowBits third) ::
                decode tail
            else replacement :: decode (third :: tail)
        else replacement :: decode (second :: tail)
    else if first < 0xF5 then
      match tail with
      | [] => [replacement]
      | second :: tail =>
        if continuesFour first second then
          match tail with
          | [] => [replacement]
          | third :: tail =>
            if continues third then
              match tail with
              | [] => [replacement]
              | fourth :: tail =>
                if continues fourth then
                  Char.ofNat (((first.toNat % 8 * 64 + lowBits second) * 64 + lowBits third) * 64
                    + lowBits fourth) :: decode tail
                else replacement :: decode (fourth :: tail)
            else replacement :: decode (third :: tail)
        else replacement :: decode (second :: tail)
    else replacement :: decode tail

/-- The text of any bytes. -/
def ofBytes (bytes : List UInt8) : String := String.ofList (decode bytes)

end Rego.Text
