import Rego.Bundle.Manifest
import Rego.Bundle.Roots

/-!
# Bundles

A bundle holds policies, compiled plans and a data tree, together with a manifest whose roots say
which part of all data it owns.
-/

namespace Rego

set_option autoImplicit false

/-- Why a manifest makes no bundle. -/
inductive BundleError where
  | overlap (root : String)
  | noRoots
deriving DecidableEq

/-- The wording of a bundle error. -/
def BundleError.message : BundleError → String
  | .overlap root => "manifest roots overlap at \x60" ++ root ++ "\x60"
  | .noRoots => "internal error: no roots in manifest"

/-- Policies, plans and data with their manifest and the tree of its roots. -/
structure Bundle where
  manifest : Manifest
  plans : List BundleFile
  policies : List BundleFile
  data : Value
  roots : RootTree

namespace Bundle

/-- Makes a bundle of its parts, provided that the manifest has roots that do not overlap. -/
def make (manifest : Manifest) (plans policies : List BundleFile) (data : Value) :
    Except BundleError Bundle :=
  if manifest.roots.isEmpty then .error .noRoots
  else
    match RootTree.ofRoots manifest.roots with
    | .ok roots => .ok ⟨manifest, plans, policies, data, roots⟩
    | .error root => .error (.overlap root)

/-- Whether all data of a value lies below the roots of a bundle. -/
def rootsContain (bundle : Bundle) (data : Value) : Bool := bundle.roots.contains data

/-- Whether a path lies below a root of a bundle or leads to one. -/
def ownsPath (bundle : Bundle) (path : List String) : Bool := bundle.roots.covers path

end Bundle

end Rego
