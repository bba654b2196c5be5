import Rego.Text.Search

/-!
# Files of bundles

A file has a path of segments between slashes, relative to the bundle.  Its name and the extension
of its name decide what it is for.
-/

namespace Rego

set_option autoImplicit false

/-- A file with its path. -/
structure BundleFile where
  path : String
  bytes : List UInt8
deriving DecidableEq

namespace Path

/-- The segments of a path that are not empty. -/
def segments (path : String) : List String :=
  ((Text.parts ['/'] path.toList).filter fun segment => !segment.isEmpty).map String.ofList

/-- What stands after the last occurrence of a character, or everything. -/
def afterLast (mark : Char) (characters : List Char) : List Char :=
  (characters.reverse.takeWhile fun character => character != mark).reverse

/-- What stands after the last slash of a path. -/
def fileName (path : String) : String := String.ofList (afterLast '/' path.toList)

/-- What stands after the last point of the file name, unless that point opens the name. -/
def extension? (path : String) : Option String :=
  let name := (fileName path).toList
  let ending := afterLast '.' name
  if name.length ≤ ending.length + 1 then none else some (String.ofList ending)

/-- The segments that lead to the file. -/
def directories (path : String) : List String := (segments path).dropLast

end Path

/-! ## Roles -/

/-- What a file of a bundle is for. -/
inductive FileRole where
  | manifest
  | data
  | plan
  | policy
deriving DecidableEq

/-- The role of the file at a path, if it belongs into a bundle at all. -/
def FileRole.ofPath? (path : String) : Option FileRole :=
  match Path.fileName path with
  | ".manifest" => some .manifest
  | "data.json" => some .data
  | "plan.json" => some .plan
  | _ => if Path.extension? path = some "rego" then some .policy else none

/-- Whether the file at a path belongs into a bundle. -/
def isBundleFile (path : String) : Bool := (FileRole.ofPath? path).isSome

end Rego
