/-!
# Archives

An archive lists entries, some of which are regular files.  What takes the bytes of an archive apart
is a decoder; loading a bundle asks it for nothing but the entries and for the defect at which it
stopped, if there is one.
-/

namespace Rego.Archive

set_option autoImplicit false

/-- An entry of an archive: its name, whether it is a regular file, the size that is announced for
it, and its content, or why the content cannot be read. -/
structure Entry where
  name : String
  isFile : Bool
  size : Nat
  content : Except String (List UInt8)

/-- The entries of an archive up to a defect, with what the decoder says about the defect. -/
structure Listing where
  entries : List Entry
  defect : Option String

/-- What takes the bytes of an archive apart. -/
abbrev Decoder := List UInt8 → Listing

end Rego.Archive
