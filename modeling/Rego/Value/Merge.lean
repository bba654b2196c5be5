import Rego.Value.Json

/-!
# Merging trees

A merge adds an overlay to a tree.  Where the tree is undefined the overlay takes the place, where
both are objects they merge key by key, and elsewhere they must be equal.  A merge that meets a
conflict stops there and keeps what it has merged so far, so an outcome holds the tree in every
case, together with the path of the conflict if there was one.
-/

namespace Rego

set_option autoImplicit false

/-- The tree a merge leaves behind, and the path at which it met a conflict. -/
structure MergeOutcome where
  value : Value
  conflict : Option String

namespace Value

/-- The path of an entry, given the path of its object. -/
def childPath (path : String) (key : Value) : String :=
  match key with
  | .string name => if path = "" then name else path ++ "/" ++ name
  | _ => path ++ "/" ++ key.displayText

mutual

/-- Merges an overlay into a tree that stands at a path. -/
def merge (base overlay : Value) (path : String) : MergeOutcome :=
  match base with
  | .undefined => ⟨overlay, none⟩
  | base =>
    if base.equals overlay then ⟨base, none⟩
    else
      match base, overlay with
      | .object current, .object incoming =>
        let (fields, conflict) := mergeFields current incoming path
        ⟨.object fields, conflict⟩
      | base, _ => ⟨base, some path⟩
termination_by structural overlay

/-- Merges incoming fields, one after the other, into the fields of an object. -/
def mergeFields (current incoming : List (Value × Value)) (path : String) :
    List (Value × Value) × Option String :=
  match incoming with
  | [] => (current, none)
  | (key, value) :: rest =>
    match Fields.get? key current with
    | none => mergeFields (Fields.put key value current) rest path
    | some existing =>
      let outcome := merge existing value (childPath path key)
      let current := Fields.put key outcome.value current
      match outcome.conflict with
      | some conflict => (current, some conflict)
      | none => mergeFields current rest path
termination_by structural incoming

end

/-- Merges an overlay below the segments that are still to walk, creating objects on the way. -/
def mergeBelow (overlay : Value) (joined : String) (walked : List String) :
    List String → Value → MergeOutcome
  | [], base => merge base overlay joined
  | segment :: rest, base =>
    match base with
    | .undefined =>
      let inner := mergeBelow overlay joined (walked ++ [segment]) rest .undefined
      ⟨.object [(.string segment, inner.value)], inner.conflict⟩
    | .object fields =>
      let existing := (Fields.get? (.string segment) fields).getD .undefined
      let inner := mergeBelow overlay joined (walked ++ [segment]) rest existing
      ⟨.object (Fields.put (.string segment) inner.value fields), inner.conflict⟩
    | base => ⟨base, some (String.intercalate "/" walked)⟩

/-- Merges an overlay into a tree at a path of keys. -/
def mergeAt (base : Value) (path : List String) (overlay : Value) : MergeOutcome :=
  mergeBelow overlay (String.intercalate "/" path) [] path base

/-- The tree with an overlay merged in, if there was no conflict. -/
def patch (base : Value) (path : List String) (overlay : Value) : Except ValueError Value :=
  let outcome := base.mergeAt path overlay
  match outcome.conflict with
  | some conflict => .error (.conflict conflict)
  | none => .ok outcome.value

end Value

end Rego
