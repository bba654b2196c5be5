import Rego.Bundle.File
import Rego.Value.Basic

/-!
# Roots

The roots of a bundle are paths, none of which leads to another one, so together they are the leaves
of a tree: below a leaf everything belongs to the bundle, and elsewhere only what is on the way to a
leaf.
-/

namespace Rego

set_option autoImplicit false

/-- A tree of path segments whose leaves are the roots. -/
inductive RootTree where
  | leaf
  | branch (children : List (String × RootTree))

namespace RootTree

/-- The tree without roots. -/
def empty : RootTree := .branch []

/-- The subtree below a segment. -/
def child? (segment : String) (children : List (String × RootTree)) : Option RootTree :=
  (children.find? fun child => child.1 == segment).map Prod.snd

/-- Sets the subtree below a segment. -/
def setChild (segment : String) (tree : RootTree) (children : List (String × RootTree)) :
    List (String × RootTree) :=
  children.filter (fun child => child.1 != segment) ++ [(segment, tree)]

/-- Adds a root, unless it leads to one that is there or one that is there leads to it. -/
def insert? : List String → RootTree → Option RootTree
  | [], .branch [] => some .leaf
  | [], _ => none
  | _ :: _, .leaf => none
  | segment :: rest, .branch children =>
    (insert? rest ((child? segment children).getD empty)).map fun tree =>
      .branch (setChild segment tree children)

/-- Adds roots one after the other; fails with the first that overlaps one before it. -/
def insertAll : List String → RootTree → Except String RootTree
  | [], tree => .ok tree
  | root :: rest, tree =>
    match insert? (Path.segments root) tree with
    | some tree => insertAll rest tree
    | none => .error root

/-- The tree of roots; fails with the first that overlaps one before it. -/
def ofRoots (roots : List String) : Except String RootTree := insertAll roots empty

/-! ## What belongs to the roots -/

/-- Whether a path lies below a root or leads to one. -/
def covers : List String → RootTree → Bool
  | [], _ => true
  | _ :: _, .leaf => true
  | segment :: rest, .branch children =>
    match child? segment children with
    | some tree => covers rest tree
    | none => false

mutual

/-- Whether all data of a value lies below the roots. -/
def contains (tree : RootTree) (data : Value) : Bool :=
  match tree, data with
  | .leaf, _ => true
  | .branch children, .object fields => containsFields children fields
  | .branch _, _ => false
termination_by structural data

/-- Whether all data of fields lies below the roots of the subtrees with their keys. -/
def containsFields (children : List (String × RootTree)) (fields : List (Value × Value)) : Bool :=
  match fields with
  | [] => true
  | (.string key, value) :: rest =>
    match child? key children with
    | some tree => contains tree value && containsFields children rest
    | none => false
  | _ :: _ => false
termination_by structural fields

end

end RootTree

end Rego
