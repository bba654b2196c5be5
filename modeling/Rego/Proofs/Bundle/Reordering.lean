import Mathlib.Data.List.Nodup
import Rego.Proofs.Bundle.Assembly
import Rego.Proofs.Bundle.Containment

/-!
# The order of the files of a bundle

Files with different paths may come in any order (`load_perm`). What files contribute, and whether
they are refused, depends on the collection of them only; plans and policies are sorted by their
paths; and the merged data is the least with the data of all overlays, so that any two orders merge
to equal data.
-/

namespace Rego

set_option autoImplicit false

namespace Bundle

open Value

/-- Bundles agree in all their parts, in their data up to equality of values. -/
structure Same (left right : Bundle) : Prop where
  manifest : left.manifest = right.manifest
  plans : left.plans = right.plans
  policies : left.policies = right.policies
  data : left.data.equals right.data = true
  roots : left.roots = right.roots

/-- Two attempts to load a bundle both fail, or both end with the same bundle. -/
inductive SameOutcome : Except LoadError Bundle → Except LoadError Bundle → Prop where
  | failed (error error' : LoadError) : SameOutcome (.error error) (.error error')
  | loaded {left right : Bundle} (same : Same left right) : SameOutcome (.ok left) (.ok right)

/-! ## Sorting by paths -/

theorem pairwise_sortByPath (files : List BundleFile) :
    (sortByPath files).Pairwise fun left right => left.path ≤ right.path := by
  have sorted := @List.pairwise_mergeSort BundleFile
    (fun left right => decide (left.path ≤ right.path))
    (fun first second third => by simpa using String.le_trans)
    (fun first second => by simpa using String.le_total first.path second.path) files
  simpa [sortByPath] using sorted

/-- Files with different paths are sorted in one way. -/
theorem sortByPath_eq_of_perm {files others : List BundleFile} (reordered : files.Perm others)
    (distinct : (files.map BundleFile.path).Nodup) : sortByPath files = sortByPath others := by
  have perm : (sortByPath files).Perm (sortByPath others) :=
    (List.mergeSort_perm _ _).trans (reordered.trans (List.mergeSort_perm _ _).symm)
  refine List.Perm.eq_of_pairwise (fun left right member member' up down => ?_)
    (pairwise_sortByPath files) (pairwise_sortByPath others) perm
  have one := (List.mergeSort_perm _ _).mem_iff.mp member
  have two := reordered.mem_iff.mpr ((List.mergeSort_perm _ _).mem_iff.mp member')
  exact List.inj_on_of_nodup_map distinct one two (String.le_antisymm up down)

/-! ## Assemblies of the same contributions -/

/-- The parts of a bundle other than its data do not depend on the data. -/
theorem make_eq_map (manifest : Manifest) (plans policies : List BundleFile)
    (data other : Value) :
    make manifest plans policies other =
      (make manifest plans policies data).map fun bundle => { bundle with data := other } := by
  unfold make
  split
  · rfl
  · split <;> rfl

theorem sameOutcome_ofAssembly {left right : Assembly} (manifest : left.manifest = right.manifest)
    (plans : sortByPath left.plans = sortByPath right.plans)
    (policies : sortByPath left.policies = sortByPath right.policies)
    (data : left.data.equals right.data = true) :
    SameOutcome (ofAssembly left) (ofAssembly right) := by
  have parts : ofParts right =
      (ofParts left).map fun bundle => { bundle with data := right.data } := by
    unfold ofParts
    rw [← manifest, ← plans, ← policies]
    exact make_eq_map _ _ _ left.data right.data
  rw [ofAssembly_eq, ofAssembly_eq, parts]
  cases made : ofParts left with
  | error error => exact .failed _ _
  | ok bundle =>
      obtain ⟨_, roots, _, rfl⟩ := make_eq_ok_iff.mp made
      have same := RootTree.contains_congr roots left.data data
      by_cases inside : roots.contains left.data = true
      · rw [inside] at same
        simp only [Except.map, rootsContain, inside, ← same, if_true]
        exact .loaded ⟨rfl, rfl, rfl, data, rfl⟩
      · rw [Bool.not_eq_true] at inside
        rw [inside] at same
        simp only [Except.map, rootsContain, inside, ← same]
        exact .failed _ _

/-- Assemblies that took the same files in different orders make the same bundle. -/
theorem sameOutcome_of_took {before left right : Assembly} {files others : List BundleFile}
    (reordered : files.Perm others) (distinct : (files.map BundleFile.path).Nodup)
    (plans : before.plans = []) (policies : before.policies = [])
    (one : Took before files left) (two : Took before others right) :
    SameOutcome (ofAssembly left) (ofAssembly right) := by
  have sorted : ∀ role, sortByPath ([] ++ files.filter (hasRole role)) =
      sortByPath ([] ++ others.filter (hasRole role)) := by
    intro role
    refine sortByPath_eq_of_perm (reordered.filter _) ?_
    exact distinct.sublist ((List.filter_sublist).map _)
  refine sameOutcome_ofAssembly ?_ ?_ ?_ ?_
  · have manifests : left.manifest.toList.Perm right.manifest.toList := by
      rw [one.manifest, two.manifest]
      exact (reordered.filterMap manifestOf?).append_left _
    cases found : left.manifest with
    | none =>
        rw [found] at manifests
        exact (Option.toList_eq_nil_iff.mp (List.nil_perm.mp manifests)).symm
    | some manifest =>
        rw [found] at manifests
        exact (Option.toList_eq_singleton_iff.mp (List.singleton_perm.mp manifests).symm).symm
  · rw [one.plans, two.plans, plans]
    exact sorted .plan
  · rw [one.policies, two.policies, policies]
    exact sorted .policy
  · have same : ∀ upper, Below left.data upper ↔ Below right.data upper := by
      intro upper
      rw [one.below_iff, two.below_iff]
      simp only [(reordered.filterMap overlayOf?).mem_iff]
    exact one.settled.equals_of_below two.settled ((same _).mpr (.refl _)) ((same _).mp (.refl _))

/-! ## Loading -/

theorem collect_map_ok (files : List BundleFile) : collect (files.map .ok) = .ok files := by
  induction files with
  | nil => rfl
  | cons file rest ih =>
      rw [List.map_cons, collect, ih]
      rfl

theorem load_map_ok (files : List BundleFile) :
    load (files.map .ok) = files.foldlM Assembly.add Assembly.empty >>= ofAssembly := by
  rw [load, collect_map_ok]
  rfl

/-- **Files with different paths load to the same outcome in any order.** -/
theorem load_perm {files others : List BundleFile} (reordered : files.Perm others)
    (distinct : (files.map BundleFile.path).Nodup) :
    SameOutcome (load (files.map .ok)) (load (others.map .ok)) := by
  have settled : Assembly.empty.data.Settled := settled_nil
  rw [load_map_ok, load_map_ok]
  have one := took_or_refused files settled
  have two := took_or_refused others settled
  cases left : files.foldlM Assembly.add Assembly.empty with
  | error error =>
      rw [left] at one
      cases one with
      | error refused =>
          cases right : others.foldlM Assembly.add Assembly.empty with
          | error error' => exact .failed error error'
          | ok assembly =>
              rw [right] at two
              cases two with
              | ok took => exact absurd (refused.perm reordered) took.not_refused
  | ok assembly =>
      rw [left] at one
      cases one with
      | ok took =>
          cases right : others.foldlM Assembly.add Assembly.empty with
          | error error =>
              rw [right] at two
              cases two with
              | error refused => exact absurd (refused.perm reordered.symm) took.not_refused
          | ok assembly' =>
              rw [right] at two
              cases two with
              | ok took' => exact sameOutcome_of_took reordered distinct rfl rfl took took'

/-- Two data files that both write below one key. -/
def crossingFiles : List BundleFile :=
  [⟨"a/data.json", Text.bytes "\x7b\"b\":true\x7d"⟩,
    ⟨"data.json", Text.bytes "\x7b\"a\":\x7b\"c\":null\x7d\x7d"⟩]

/-- The two files load, and they load to the same bundle the other way round. -/
theorem load_perm_crossing :
    (load (crossingFiles.map .ok)).isOk = true ∧
      SameOutcome (load (crossingFiles.map .ok)) (load (crossingFiles.reverse.map .ok)) :=
  ⟨by decide +kernel, load_perm crossingFiles.reverse_perm.symm (by decide)⟩

end Bundle

end Rego
