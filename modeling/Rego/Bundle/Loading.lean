import Rego.Bundle.Basic
import Rego.Value.Merge

/-!
# Loading bundles

A bundle is put together from files.  Data files are merged into one tree at the directories they
stand in, plans and policies are kept in the order of their paths, and files that do not belong into
a bundle are passed over.  A source gives files or failures; the first failure, and otherwise the
first file that does not fit, ends the loading.
-/

namespace Rego

set_option autoImplicit false

/-- Why a bundle could not be loaded. -/
inductive LoadError where
  | unexpectedManifest (path : String)
  | unexpectedData (path : String)
  | undecodableManifest (path : String)
  | undecodableData (path : String)
  | conflict (path : String) (error : ValueError)
  | escapedRoot
  | bundle (error : BundleError)
  | unreadable (path reason : String)
  | tooLarge (path : String) (size limit : Nat)
  /-- The shift of a number literal is no machine word; this ends the program. -/
  | shiftOverflow
deriving DecidableEq

/-- The wording of a load error; what is wrong with an undecodable text is not worded. -/
def LoadError.message : LoadError → String
  | .unexpectedManifest path =>
    "unexpected manifest \x60" ++ path ++ "\x60; a bundle has at most one, at its root"
  | .unexpectedData path =>
    "data file \x60" ++ path ++ "\x60 at the bundle root must hold an object"
  | .undecodableManifest path => "failed to parse manifest \x60" ++ path ++ "\x60"
  | .undecodableData path => "failed to parse data file \x60" ++ path ++ "\x60"
  | .conflict path error => "failed to merge data file \x60" ++ path ++ "\x60: " ++ error.message
  | .escapedRoot => "bundle data lies outside the manifest roots"
  | .bundle error => error.message
  | .unreadable path reason => "failed to read \x60" ++ path ++ "\x60: " ++ reason
  | .tooLarge path size limit =>
    "file \x60" ++ path ++ "\x60 is " ++ toString size ++ " bytes, over the " ++ toString limit ++
      " byte limit"
  | .shiftOverflow => Number.overflowNote

namespace Bundle

/-- What has been put together from the files so far, each list of files in the order they came. -/
structure Assembly where
  manifest : Option Manifest
  data : Value
  plans : List BundleFile
  policies : List BundleFile

namespace Assembly

/-- What is put together from no files. -/
def empty : Assembly := ⟨none, .object [], [], []⟩

/-- Takes the one manifest, which stands at the root of the bundle. -/
def addManifest (assembly : Assembly) (file : BundleFile) : Except LoadError Assembly :=
  if assembly.manifest.isSome ∨ file.path ≠ ".manifest" then
    .error (.unexpectedManifest file.path)
  else
    match Manifest.decode? file.bytes with
    | some manifest => .ok { assembly with manifest := some manifest }
    | none =>
      .error (if Manifest.overflows file.bytes then .shiftOverflow
        else .undecodableManifest file.path)

/-- Whether a value is an object. -/
def isObject : Value → Bool
  | .object _ => true
  | _ => false

/-- Merges the value of a data file at the directory of the file. -/
def addData (assembly : Assembly) (file : BundleFile) : Except LoadError Assembly :=
  match Value.decode file.bytes with
  | .error .shiftOverflow => .error .shiftOverflow
  | .error _ => .error (.undecodableData file.path)
  | .ok value =>
    let directories := Path.directories file.path
    if directories.isEmpty && !isObject value then .error (.unexpectedData file.path)
    else
      let outcome := assembly.data.mergeAt directories value
      match outcome.conflict with
      | some path => .error (.conflict file.path (.conflict path))
      | none => .ok { assembly with data := outcome.value }

/-- Takes a file by its role. -/
def add (assembly : Assembly) (file : BundleFile) : Except LoadError Assembly :=
  match FileRole.ofPath? file.path with
  | some .manifest => assembly.addManifest file
  | some .data => assembly.addData file
  | some .plan => .ok { assembly with plans := assembly.plans ++ [file] }
  | some .policy => .ok { assembly with policies := assembly.policies ++ [file] }
  | none => .ok assembly

end Assembly

/-- Files in the order of their paths, those of equal paths as they came. -/
def sortByPath (files : List BundleFile) : List BundleFile :=
  files.mergeSort fun left right => decide (left.path ≤ right.path)

/-- The bundle of what was put together; its data must not escape its roots. -/
def ofAssembly (assembly : Assembly) : Except LoadError Bundle := do
  let bundle ←
    (make (assembly.manifest.getD Manifest.standard) (sortByPath assembly.plans)
      (sortByPath assembly.policies) assembly.data).mapError .bundle
  if bundle.rootsContain bundle.data then return bundle else .error .escapedRoot

/-- The bundle of files. -/
def ofFiles (files : List BundleFile) : Except LoadError Bundle := do
  ofAssembly (← files.foldlM Assembly.add Assembly.empty)

/-- The files of a source, or its first failure. -/
def collect : List (Except LoadError BundleFile) → Except LoadError (List BundleFile)
  | [] => .ok []
  | .ok file :: rest => do
    let files ← collect rest
    return file :: files
  | .error error :: _ => .error error

/-- Loads a bundle from a source. -/
def load (source : List (Except LoadError BundleFile)) : Except LoadError Bundle := do
  ofFiles (← collect source)

end Bundle

end Rego
