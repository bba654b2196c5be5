import Rego.Proofs.Bundle.Containment

/-!
# The paths that a bundle owns

Two walks go down the tree of roots: the one that tests whether the roots contain some data and the
one that tests whether a bundle owns a path. The second walk succeeds at a path exactly when the path
overlaps the path of a root (`RootTree.covers_iff`); where the path ends before a leaf, it leads to a
root because no branch of the tree is barren. Data that the first walk accepts holds values at owned
paths only, since what belongs to roots stands below one of them or on the way to one
(`Bundle.ownsPath_iff_overlap`).
-/

namespace Rego

set_option autoImplicit false

namespace Path

theorem Overlap.of_shorter {root path front : List String} (overlap : Overlap root path)
    (shorter : front <+: path) : Overlap root front := by
  rcases overlap with below | through
  · exact List.prefix_or_prefix_of_prefix below shorter
  · exact .inr (shorter.trans through)

theorem leads_of_keys {left right : List String}
    (front : Path.keys left <+: Path.keys right) : left <+: right := by
  have injective : Function.Injective Value.string := fun _ _ same => Value.string.inj same
  obtain ⟨rest, split⟩ := front
  obtain ⟨first, others, rfl, same, _⟩ := List.map_eq_append_iff.mp split.symm
  rw [List.map_injective_iff.mpr injective same]
  exact List.prefix_append left others

/-- A value at a path of names that belongs to roots stands at a path that overlaps one of them. -/
theorem exists_overlap_of_belongs {root : List String → Prop} {path : List String} {value : Value}
    (belongs : Belongs root (Path.keys path) value) :
    ∃ segments, root segments ∧ Overlap segments path := by
  rcases belongs with ⟨segments, has, below⟩ | ⟨_, segments, has, through⟩
  · exact ⟨segments, has, .inl (leads_of_keys below)⟩
  · exact ⟨segments, has, .inr (leads_of_keys through)⟩

end Path

namespace RootTree

/-- Overlapping a root of a branch is overlapping a root of the subtree at the first segment. -/
theorem exists_overlap_cons_iff {children : List (String × RootTree)} (segment : String)
    (path : List String) :
    (∃ root, HasRoot root (.branch children) ∧ Path.Overlap root (segment :: path)) ↔
      ∃ tree, child? segment children = some tree ∧
        ∃ root, HasRoot root tree ∧ Path.Overlap root path := by
  constructor
  · rintro ⟨root, has, overlap⟩
    cases root with
    | nil => exact has.elim
    | cons first rest =>
        have same : first = segment := by
          rcases overlap with below | through
          · exact (List.cons_prefix_cons.mp below).1
          · exact (List.cons_prefix_cons.mp through).1.symm
        subst same
        obtain ⟨tree, found, has⟩ := has
        refine ⟨tree, found, rest, has, ?_⟩
        exact overlap.imp (List.prefix_cons_inj first).mp (List.prefix_cons_inj first).mp
  · rintro ⟨tree, found, root, has, overlap⟩
    refine ⟨segment :: root, ⟨tree, found, has⟩, ?_⟩
    exact overlap.imp (List.prefix_cons_inj segment).mpr (List.prefix_cons_inj segment).mpr

/-- **The tree covers exactly the paths that overlap one of its roots.** -/
theorem covers_iff {path : List String} {tree : RootTree} (grown : Grown tree) :
    covers path tree = true ↔ ∃ root, HasRoot root tree ∧ Path.Overlap root path := by
  induction path generalizing tree with
  | nil =>
      -- The walk ends here, and a grown tree has a root further down.
      obtain ⟨root, has⟩ := grown.exists_root
      simp only [covers, true_iff]
      exact ⟨root, has, .inr List.nil_prefix⟩
  | cons segment rest ih =>
      cases grown with
      | leaf =>
          simp only [covers, true_iff]
          exact ⟨[], trivial, .inl List.nil_prefix⟩
      | @branch children _ grown =>
          rw [exists_overlap_cons_iff]
          cases found : child? segment children with
          | none => simp [covers, found]
          | some tree =>
              simp only [covers, found, Option.some.injEq, exists_eq_left']
              exact ih (grown segment tree found)

end RootTree

namespace Bundle

/-- A bundle that was made owns the paths that overlap a root of its manifest. -/
theorem ownsPath_iff {manifest : Manifest} {plans policies : List BundleFile} {content : Value}
    {bundle : Bundle} (made : make manifest plans policies content = .ok bundle)
    (path : List String) :
    bundle.ownsPath path = true ↔
      ∃ root ∈ manifest.roots, Path.Overlap (Path.segments root) path := by
  obtain ⟨inhabited, roots, ofRoots, rfl⟩ := make_eq_ok_iff.mp made
  obtain ⟨_, grown, paths⟩ := RootTree.insertAll_ok ofRoots (.inl rfl)
  have hasRoot (segments : List String) : RootTree.HasRoot segments roots ↔
      ∃ root ∈ manifest.roots, Path.segments root = segments :=
    (paths segments).trans (or_iff_right (RootTree.not_hasRoot_empty segments))
  refine (RootTree.covers_iff (grown inhabited)).trans ?_
  simp only [hasRoot]
  constructor
  · rintro ⟨_, ⟨root, member, rfl⟩, overlap⟩
    exact ⟨root, member, overlap⟩
  · rintro ⟨root, member, overlap⟩
    exact ⟨_, ⟨root, member, rfl⟩, overlap⟩

/-- **A bundle owns exactly the paths that lead to a root or run past one.** With a path it owns all
paths that lead to it and, once a root is reached, all that go on from it; and it owns every path of
names at which data that its roots contain holds a value. -/
theorem ownsPath_iff_overlap {manifest : Manifest} {plans policies : List BundleFile}
    {content : Value} {bundle : Bundle}
    (made : make manifest plans policies content = .ok bundle) (path : List String) :
    (bundle.ownsPath path = true ↔
      ∃ root ∈ manifest.roots, Path.segments root <+: path ∨ path <+: Path.segments root) ∧
    (bundle.ownsPath path = true → ∀ front, front <+: path → bundle.ownsPath front = true) ∧
    (∀ root ∈ manifest.roots, Path.segments root <+: path →
      ∀ longer, path <+: longer → bundle.ownsPath longer = true) ∧
    ∀ data value, bundle.rootsContain data = true → data.HoldsAt (Path.keys path) value →
      bundle.ownsPath path = true := by
  refine ⟨ownsPath_iff made path, ?_, ?_, ?_⟩
  · intro owned front shorter
    obtain ⟨root, member, overlap⟩ := (ownsPath_iff made path).mp owned
    exact (ownsPath_iff made front).mpr ⟨root, member, overlap.of_shorter shorter⟩
  · intro root member reached longer further
    exact (ownsPath_iff made longer).mpr ⟨root, member, .inl (reached.trans further)⟩
  · intro data value contained holds
    have within := (rootsContain_iff made data).mp contained
    obtain ⟨_, ⟨root, member, rfl⟩, overlap⟩ :=
      Path.exists_overlap_of_belongs (within _ value holds)
    exact (ownsPath_iff made path).mpr ⟨root, member, overlap⟩

/-- With the roots `/a//b` and `c`, the inner path `a` is owned, as is `a/b/x`, where contained data
holds a value; the path `a/c` between them is not. -/
theorem ownsPath_iff_overlap_inner :
    ∃ bundle, make ⟨"", ["/a//b", "c"], .one, .null⟩ [] [] .null = .ok bundle ∧
      bundle.ownsPath ["a"] = true ∧ bundle.ownsPath ["a", "b", "x"] = true ∧
      ¬bundle.ownsPath ["a", "c"] = true := by
  have made : make ⟨"", ["/a//b", "c"], .one, .null⟩ [] [] .null =
      .ok ⟨⟨"", ["/a//b", "c"], .one, .null⟩, [], [], .null,
        .branch [("a", .branch [("b", .leaf)]), ("c", .leaf)]⟩ := by with_unfolding_all rfl
  have first : Path.segments "/a//b" = ["a", "b"] := by decide +kernel
  have second : Path.segments "c" = ["c"] := by decide +kernel
  have deep := ownsPath_iff_overlap made ["a", "b", "x"]
  have owned := deep.2.2.2
    (.object [(.string "a", .object [(.string "b", .object [(.string "x", .null)])])]) .null
    (by decide)
    (.field (.head _) (.field (.head _) (.field (.head _) (.here .null))))
  refine ⟨_, made, deep.2.1 owned ["a"] ⟨["b", "x"], rfl⟩, owned, ?_⟩
  rw [(ownsPath_iff_overlap made ["a", "c"]).1]
  simp [first, second]

end Bundle

end Rego
