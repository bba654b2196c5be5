import Rego.Archive.Basic
import Rego.Archive.Gzip
import Rego.Digest.Padding
import Rego.Text.Blank
import Rego.Text.Radix
import Rego.Text.Utf8

/-!
# A decoder of plain archives

An archive is a sequence of blocks of 512 bytes: for each entry a header with its name, kind and
size, and then its content, filled up to whole blocks.  A block of zeros ends the archive, and so
does the end of the data between two entries.  Numbers are octal digits, or bytes behind a mark; a
checksum over the header guards it.

`Tar.decoder` is one decoder among those that bundles may be loaded with.  It is complete for
archives in streams of stored blocks whose names fit into their headers.
-/

namespace Rego.Tar

set_option autoImplicit false

open scoped Rego.Power

/-- The size of a block. -/
def blockSize : Nat := 512

/-! ## Header fields -/

/-- The bytes of a field of a header. -/
def fieldAt (header : List UInt8) (start length : Nat) : List UInt8 :=
  (header.drop start).take length

/-- The bytes of a field up to the first zero. -/
def untilZero (bytes : List UInt8) : List UInt8 := bytes.takeWhile fun byte => byte != 0

/-- The number that octal digits spell, perhaps after a plus sign. -/
def octalValue? (characters : List Char) : Option Nat :=
  let digits := if characters.head? = some '+' then characters.drop 1 else characters
  if digits.isEmpty then none
  else
    digits.foldlM (fun leading digit =>
      match Radix.digitValue? digit with
      | some value => if value < 8 then some (leading * 8 + value) else none
      | none => none) 0

/-- The number in a field of octal digits, with blanks around them. -/
def octal? (bytes : List UInt8) : Option Nat :=
  (Text.ofBytes? (untilZero bytes)).bind fun text =>
    octalValue? (Text.trimWhile Text.isBlank text.toList)

/-- The number in a field of octal digits or, where the first byte is marked, of eight bytes. -/
def number? (bytes : List UInt8) : Option Nat :=
  match bytes.head? with
  | some mark =>
    if 0x80 ≤ mark then some (Digest.ofBigBytes (bytes.drop (bytes.length - 8))) else octal? bytes
  | none => none

/-- The sum of the bytes of a header, with blanks in place of the checksum. -/
def checksum (header : List UInt8) : Nat :=
  (header.take 148 ++ header.drop 156).foldl (fun total byte => total + byte.toNat) (8 * 32)

/-- Whether the format of a header has a field for the beginning of long names. -/
def hasBeginning (header : List UInt8) : Bool :=
  fieldAt header 257 8 == [0x75, 0x73, 0x74, 0x61, 0x72, 0, 0x30, 0x30]

/-- The name in a header. -/
def nameOf (header : List UInt8) : List UInt8 :=
  let name := untilZero (fieldAt header 0 100)
  let beginning := untilZero (fieldAt header 345 155)
  if hasBeginning header && !beginning.isEmpty then beginning ++ 0x2f :: name else name

/-- Whether a header announces a regular file. -/
def announcesFile (header : List UInt8) : Bool :=
  let kind := header.getD 156 0
  kind == 0 || kind == 0x30

/-! ## Entries -/

open Archive (Entry Listing)

/-- What is said about any defect. -/
def damage : String := "damaged archive"

/-- The size of an entry in a sound header. -/
def sizeOf? (header : List UInt8) : Option Nat :=
  if octal? (fieldAt header 148 8) = some (checksum header) then number? (fieldAt header 124 12)
  else none

/-- The size of a content with its filling. -/
def filledSize (size : Nat) : Nat := (size + (blockSize - 1)) / blockSize * blockSize

/-- The entries of the bytes that a stream gives from a position on; the content of the last may be
cut short at a defect. -/
def entriesFrom (position : Nat) (sound : Bool) (bytes : List UInt8) : Listing :=
  if bytes.isEmpty then ⟨[], if sound then none else some damage⟩
  else if _tooShort : bytes.length < blockSize then ⟨[], some damage⟩
  else
    let header := bytes.take blockSize
    if header.all fun byte => byte == 0 then ⟨[], none⟩
    else
      match sizeOf? header with
      | none => ⟨[], some damage⟩
      | some size =>
        let next := position + blockSize + filledSize size
        if 2 ^ (64 : Nat) ≤ size + (blockSize - 1) ∨ 2 ^ (64 : Nat) ≤ next then ⟨[], some damage⟩
        else
          let body := bytes.drop blockSize
          let entry : Entry :=
            ⟨Text.ofBytes (nameOf header), announcesFile header, size, .ok (body.take size)⟩
          if body.length < filledSize size then ⟨[entry], some damage⟩
          else
            let later := entriesFrom next sound (body.drop (filledSize size))
            ⟨entry :: later.entries, later.defect⟩
termination_by bytes.length
decreasing_by
  simp only [blockSize] at _tooShort
  simp only [List.length_drop, blockSize]
  omega

/-- The entries of the archive in a stream of stored blocks. -/
def decoder : Archive.Decoder := fun file =>
  let stream := Gzip.open file
  entriesFrom 0 stream.sound stream.bytes

end Rego.Tar
