import Rego.Archive.Basic
import Rego.Bundle.Directory

/-!
# Bundles in archives

An archive gives its regular files in the order of its entries, under names without leading slashes
and without references to the directory it stands for.  A damaged archive fails where the damage is
met, so a file beyond the limit of size that stands before it is the failure that counts.  How the
bytes of an archive are taken apart into entries is left to a decoder.
-/

namespace Rego

set_option autoImplicit false

namespace Path

/-- A path without references to the directory it starts from. -/
def relative : List Char → List Char
  | '/' :: rest => relative rest
  | '.' :: '/' :: rest => relative rest
  | characters => characters

end Path

namespace Bundle

/-- The size of a file of an archive beyond which loading fails, unless told otherwise. -/
def archiveLimit : Nat := 10 * 1024 * 1024

/-- The options of an archive that is not told any. -/
def archiveOptions : SourceOptions := ⟨fun _ => false, some archiveLimit⟩

/-- The file that a bundle takes from an entry under a path. -/
def entryFile (options : SourceOptions) (path : String) (entry : Archive.Entry) :
    Except LoadError BundleFile :=
  match options.excess? path entry.size with
  | some error => .error error
  | none =>
    match entry.content with
    | .ok content => .ok ⟨path, content⟩
    | .error reason => .error (.unreadable path reason)

/-- The files that a bundle takes from entries, after which there may be a defect. -/
def entryFiles (place : String) (options : SourceOptions) (defect : Option String) :
    List Archive.Entry → Except LoadError (List BundleFile)
  | [] =>
    match defect with
    | none => .ok []
    | some reason => .error (.unreadable place reason)
  | entry :: rest =>
    let path := String.ofList (Path.relative entry.name.toList)
    if entry.isFile && options.takes path then do
      let file ← entryFile options path entry
      let files ← entryFiles place options defect rest
      return file :: files
    else entryFiles place options defect rest

section Decoder

variable (decode : Archive.Decoder)

/-- The files that a bundle takes from the archive at a place, which may be missing. -/
def archiveFiles (place : String) (options : SourceOptions) :
    Option (List UInt8) → Except LoadError (List BundleFile)
  | some bytes =>
    let listing := decode bytes
    entryFiles place options listing.defect listing.entries
  | none => .error (.unreadable place "no such file or directory")

/-- Loads the bundle in the archive at a place. -/
def loadArchive (place : String) (options : SourceOptions) (bytes : Option (List UInt8)) :
    Except LoadError Bundle := do
  ofFiles (← archiveFiles decode place options bytes)

/-- Loads the bundle at a place: in the directory that stands there, or else in an archive. -/
def loadPlace (place : String) : Option FileTree → Except LoadError Bundle
  | some (.directory children) =>
    loadDirectory place SourceOptions.standard (some (.directory children))
  | some (.file bytes) => loadArchive decode place archiveOptions (some bytes)
  | none => loadArchive decode place archiveOptions none

end Decoder

end Bundle

end Rego
