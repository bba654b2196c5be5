import Rego.Bundle.Loading

/-!
# Bundles in directories

A file tree is walked name by name in ascending order, and into each directory as soon as it is met.
Of the files that are met a bundle takes those that belong into one and are not to be skipped; a
file beyond a limit of size is a failure in its place.
-/

namespace Rego

set_option autoImplicit false

/-- Files and directories below each other. -/
inductive FileTree where
  | file (bytes : List UInt8)
  | directory (children : List (String × FileTree))

namespace FileTree

/-- The path of something in a directory. -/
def childPath (path name : String) : String := if path = "" then name else path ++ "/" ++ name

mutual

/-- The files of a tree that stands at a path, in the order in which a walk meets them. -/
def filesAt (path : String) : FileTree → List BundleFile
  | .file bytes => [⟨path, bytes⟩]
  | .directory children =>
    ((filesOfChildren path children).mergeSort fun left right =>
      decide (left.1 ≤ right.1)).flatMap Prod.snd
termination_by structural tree => tree

/-- The files of each child of the directory at a path, with the name of the child. -/
def filesOfChildren (path : String) :
    List (String × FileTree) → List (String × List BundleFile)
  | [] => []
  | (name, child) :: rest =>
    (name, filesAt (childPath path name) child) :: filesOfChildren path rest
termination_by structural children => children

end

/-- The files of a tree with their paths in it. -/
def files (tree : FileTree) : List BundleFile := filesAt "" tree

end FileTree

/-- Which files a source leaves out, and how large those may be that it does not. -/
structure SourceOptions where
  skips : String → Bool
  limit : Option Nat

namespace SourceOptions

/-- Leaves nothing out and has no limit. -/
def standard : SourceOptions := ⟨fun _ => false, none⟩

/-- Whether the file at a path is taken. -/
def takes (options : SourceOptions) (path : String) : Bool :=
  isBundleFile path && !options.skips path

/-- The failure of a file beyond the limit. -/
def excess? (options : SourceOptions) (path : String) (size : Nat) : Option LoadError :=
  match options.limit with
  | some limit => if limit < size then some (.tooLarge path size limit) else none
  | none => none

end SourceOptions

namespace Bundle

/-- A file, or the failure of one that is too large. -/
def withinLimit (options : SourceOptions) (file : BundleFile) : Except LoadError BundleFile :=
  match options.excess? file.path file.bytes.length with
  | some error => .error error
  | none => .ok file

/-- The files that a bundle takes from the tree at a place, which may be missing. -/
def directoryFiles (place : String) (options : SourceOptions) :
    Option FileTree → List (Except LoadError BundleFile)
  | some tree =>
    (tree.files.filter fun file => options.takes file.path).map (withinLimit options)
  | none => [.error (.unreadable place "no such file or directory")]

/-- Loads the bundle in the tree at a place. -/
def loadDirectory (place : String) (options : SourceOptions) (tree : Option FileTree) :
    Except LoadError Bundle :=
  load (directoryFiles place options tree)

end Bundle

end Rego
