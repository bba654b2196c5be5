import Rego.Proofs.Bundle.Containment
import Rego.Proofs.Text.Parts

/-!
# Roots that overlap

The segments of a path are what stands between slashes, empty pieces left out, so spellings that
differ only in repeated slashes have the same segments (`Path.segments_append`). Roots make a tree
exactly when none of them leads to another one (`RootTree.ofRoots_eq_ok_iff`); otherwise the tree is
refused with the first root that overlaps an earlier one (`RootTree.ofRoots_eq_error_iff`). Both
come from what the insertion of one root needs of the roots that are there already.
-/

namespace Rego

set_option autoImplicit false

/-! ## Segments -/

namespace Path

/-- The segments on either side of a slash are those of the two sides. -/
theorem segments_append (left right : String) :
    segments (left ++ "/" ++ right) = segments left ++ segments right := by
  have characters : (left ++ "/" ++ right).toList = left.toList ++ '/' :: right.toList := by
    simp
  rw [segments, characters, Text.parts_mark_append, List.filter_append, List.map_append]
  rfl

/-- A path without slashes is its only segment, unless it is empty. -/
theorem segments_of_plain {name : String} (plain : '/' ∉ name.toList) :
    segments name = if name = "" then [] else [name] := by
  rw [segments, Text.parts_mark_of_not_mem '/' plain]
  by_cases empty : name = ""
  · subst empty
    rfl
  · simp [empty]

@[simp] theorem segments_empty : segments "" = [] := segments_of_plain nofun

/-- A slash in front adds no segment. -/
theorem segments_slash_append (path : String) : segments ("/" ++ path) = segments path := by
  have split := segments_append "" path
  rwa [segments_empty, List.nil_append, String.empty_append] at split

/-- A slash behind adds no segment. -/
theorem segments_append_slash (path : String) : segments (path ++ "/") = segments path := by
  have split := segments_append path ""
  rwa [segments_empty, List.append_nil, String.append_empty] at split

end Path

/-- No two roots at different places overlap. -/
def Apart (roots : List String) : Prop :=
  roots.Pairwise fun left right => ¬Path.Overlap (Path.segments left) (Path.segments right)

/-- A root overlaps an earlier one, and none before it does so. -/
def FirstOverlap (roots : List String) (root : String) : Prop :=
  ∃ before after, roots = before ++ root :: after ∧ Apart before ∧
    ∃ earlier ∈ before, Path.Overlap (Path.segments earlier) (Path.segments root)

namespace RootTree

/-! ## The tree of several roots -/

/-- Roots that are all added overlap neither one another nor what was there. -/
theorem apart_of_insertAll {roots : List String} {tree larger : RootTree}
    (inserted : insertAll roots tree = .ok larger) (grown : tree = empty ∨ Grown tree) :
    Apart roots ∧ ∀ root ∈ roots, ∀ path, HasRoot path tree →
      ¬Path.Overlap path (Path.segments root) := by
  induction roots generalizing tree with
  | nil => exact ⟨.nil, nofun⟩
  | cons root rest ih =>
      unfold insertAll at inserted
      cases step : insert? (Path.segments root) tree with
      | none => rw [step] at inserted; cases inserted
      | some next =>
          rw [step] at inserted
          obtain ⟨apart, outside⟩ := ih inserted (.inr (grown_insert? step grown))
          have paths := hasRoot_insert? step
          have free : ∀ path, HasRoot path tree → ¬Path.Overlap path (Path.segments root) := by
            intro path has overlap
            have refused := (insert?_eq_none_iff grown).mpr ⟨path, has, overlap⟩
            rw [step] at refused
            cases refused
          constructor
          · refine List.pairwise_cons.mpr ⟨fun other member => ?_, apart⟩
            exact outside other member _ ((paths _).mpr (.inr rfl))
          · refine List.forall_mem_cons.mpr ⟨free, fun other member path has => ?_⟩
            exact outside other member path ((paths path).mpr (.inl has))

/-- A root is refused by the tree of those before it. -/
theorem insertAll_eq_error_iff {roots : List String} {tree : RootTree} {root : String} :
    insertAll roots tree = .error root ↔ ∃ before after next, roots = before ++ root :: after ∧
      insertAll before tree = .ok next ∧ insert? (Path.segments root) next = none := by
  constructor
  · intro failed
    induction roots generalizing tree with
    | nil => cases failed
    | cons first rest ih =>
        unfold insertAll at failed
        cases step : insert? (Path.segments first) tree with
        | none =>
            rw [step] at failed
            cases failed
            exact ⟨[], rest, tree, rfl, rfl, step⟩
        | some grown =>
            rw [step] at failed
            obtain ⟨before, after, next, rfl, inserted, refused⟩ := ih failed
            refine ⟨first :: before, after, next, rfl, ?_, refused⟩
            rw [insertAll, step]
            exact inserted
  · rintro ⟨before, after, next, rfl, inserted, refused⟩
    induction before generalizing tree with
    | nil =>
        cases inserted
        rw [List.nil_append, insertAll, refused]
    | cons first before ih =>
        unfold insertAll at inserted
        cases step : insert? (Path.segments first) tree with
        | none => rw [step] at inserted; cases inserted
        | some grown =>
            rw [step] at inserted
            rw [List.cons_append, insertAll, step]
            exact ih inserted

/-- **Roots make a tree exactly when no two of them overlap.** -/
theorem ofRoots_eq_ok_iff {roots : List String} :
    (∃ tree, ofRoots roots = .ok tree) ↔ Apart roots := by
  constructor
  · rintro ⟨tree, made⟩
    exact (apart_of_insertAll made (.inl rfl)).1
  · intro apart
    exact exists_insertAll (.inl rfl) apart fun _ _ path has => absurd has (not_hasRoot_empty path)

/-- **The root that is refused is the first that overlaps an earlier one.** -/
theorem ofRoots_eq_error_iff {roots : List String} {root : String} :
    ofRoots roots = .error root ↔ FirstOverlap roots root := by
  -- The tree of the earlier roots has exactly their paths.
  have known : ∀ {before : List String} {next : RootTree}, insertAll before empty = .ok next →
      (insert? (Path.segments root) next = none ↔
        ∃ earlier ∈ before, Path.Overlap (Path.segments earlier) (Path.segments root)) := by
    intro before next inserted
    obtain ⟨grown, _, paths⟩ := insertAll_ok inserted (.inl rfl)
    rw [insert?_eq_none_iff grown]
    constructor
    · rintro ⟨path, has, overlap⟩
      obtain ⟨earlier, member, rfl⟩ :=
        ((paths path).mp has).resolve_left (not_hasRoot_empty path)
      exact ⟨earlier, member, overlap⟩
    · rintro ⟨earlier, member, overlap⟩
      exact ⟨_, (paths _).mpr (.inr ⟨earlier, member, rfl⟩), overlap⟩
  unfold ofRoots
  rw [insertAll_eq_error_iff]
  constructor
  · rintro ⟨before, after, next, rfl, inserted, refused⟩
    exact ⟨before, after, rfl, ofRoots_eq_ok_iff.mp ⟨next, inserted⟩, (known inserted).mp refused⟩
  · rintro ⟨before, after, rfl, apart, overlaps⟩
    obtain ⟨next, inserted⟩ := ofRoots_eq_ok_iff.mpr apart
    exact ⟨before, after, next, rfl, inserted, (known inserted).mpr overlaps⟩

end RootTree

theorem FirstOverlap.not_apart {roots : List String} {root : String}
    (first : FirstOverlap roots root) : ¬Apart roots := by
  intro apart
  obtain ⟨tree, made⟩ := RootTree.ofRoots_eq_ok_iff.mpr apart
  rw [RootTree.ofRoots_eq_error_iff.mpr first] at made
  cases made

theorem FirstOverlap.unique {roots : List String} {root other : String}
    (first : FirstOverlap roots root) (first' : FirstOverlap roots other) : root = other := by
  have refused := RootTree.ofRoots_eq_error_iff.mpr first
  rw [RootTree.ofRoots_eq_error_iff.mpr first'] at refused
  exact (Except.error.inj refused).symm

namespace Bundle

/-- Parts make no bundle when the manifest has no roots, or roots that overlap. -/
theorem make_eq_error_iff {manifest : Manifest} {plans policies : List BundleFile} {data : Value}
    {error : BundleError} :
    make manifest plans policies data = .error error ↔
      manifest.roots = [] ∧ error = .noRoots ∨
        ∃ root, FirstOverlap manifest.roots root ∧ error = .overlap root := by
  unfold make
  by_cases none : manifest.roots = []
  · have apart : ¬∃ root, FirstOverlap [] root := by
      rintro ⟨root, before, after, split, _⟩
      exact absurd split (List.append_ne_nil_of_right_ne_nil _ (List.cons_ne_nil _ _)).symm
    simp only [none, List.isEmpty_nil, if_true, Except.error.injEq, true_and]
    constructor
    · rintro rfl
      exact .inl rfl
    · rintro (rfl | ⟨root, overlap, _⟩)
      · rfl
      · exact absurd ⟨root, overlap⟩ apart
  · rw [if_neg (by simpa using none)]
    simp only [none, false_and, false_or, ← RootTree.ofRoots_eq_error_iff]
    cases made : RootTree.ofRoots manifest.roots with
    | ok roots => simp
    | error root => simp [eq_comm]

/-- **Roots make a tree exactly when none of them leads to another one.** Otherwise the first root
that overlaps an earlier one is refused, and a manifest with such roots makes no bundle. What counts
of a root is its segments, to which empty pieces and the slashes around them add nothing. -/
theorem roots_apart_or_refused :
    (∀ roots : List String,
      ((∃ tree, RootTree.ofRoots roots = .ok tree) ↔ Apart roots) ∧
      ∀ root, RootTree.ofRoots roots = .error root ↔ FirstOverlap roots root) ∧
    (∀ (manifest : Manifest) (plans policies : List BundleFile) (data : Value)
      (error : BundleError), manifest.roots ≠ [] →
      (make manifest plans policies data = .error error ↔
        ∃ root, FirstOverlap manifest.roots root ∧ error = .overlap root)) ∧
    (∀ left right : String,
      Path.segments (left ++ "/" ++ right) = Path.segments left ++ Path.segments right) ∧
    (∀ name : String, '/' ∉ name.toList →
      Path.segments name = if name = "" then [] else [name]) ∧
    ∀ root : String, Path.segments ("/" ++ root ++ "/") = Path.segments root ∧
      Path.segments (root ++ "//") = Path.segments root ∧
      Path.Overlap (Path.segments "") (Path.segments root) := by
  refine ⟨fun roots => ?_, ?_, Path.segments_append, fun name => Path.segments_of_plain, ?_⟩
  · exact ⟨RootTree.ofRoots_eq_ok_iff, fun root => RootTree.ofRoots_eq_error_iff⟩
  · intro manifest plans policies data error inhabited
    rw [make_eq_error_iff, or_iff_right (fun none => inhabited none.1)]
  · intro root
    refine ⟨?_, ?_, ?_⟩
    · rw [Path.segments_append_slash, Path.segments_slash_append]
    · have twice : root ++ "//" = root ++ "/" ++ "/" := by
        rw [String.append_assoc]
        rfl
      rw [twice, Path.segments_append_slash, Path.segments_append_slash]
    · rw [Path.segments_empty]
      exact .inl List.nil_prefix

/-- Another spelling of the way to an earlier root is refused, before the root that is repeated. -/
theorem roots_apart_or_refused_spelling :
    FirstOverlap ["a/b", "c", "/a//", "c"] "/a//" ∧ Path.segments "c" = ["c"] := by
  constructor
  · obtain ⟨root, first, same⟩ :=
      (roots_apart_or_refused.2.1 ⟨"", ["a/b", "c", "/a//", "c"], .one, .null⟩ [] [] .null
        (.overlap "/a//") nofun).mp (by with_unfolding_all rfl)
    cases same
    exact first
  · exact roots_apart_or_refused.2.2.2.1 "c" (by decide)

end Bundle

end Rego
