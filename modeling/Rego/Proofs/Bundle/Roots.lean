import Rego.Bundle.Roots
import Mathlib.Data.List.Basic

/-!
# What the tree of roots knows

A tree of roots stands for the paths that end in one of its leaves (`HasRoot`). Adding a root adds
exactly its path (`hasRoot_insert?`), and it is refused exactly when a path that is there leads to
it or it leads to one that is there (`insert?_eq_none_iff`). The second fact needs that no branch
is barren: every node but the root of an empty tree leads to a leaf (`Grown`), which every insertion
keeps.
-/

namespace Rego

set_option autoImplicit false

/-- Two paths overlap when one of them leads to the other. -/
def Path.Overlap (left right : List String) : Prop := left <+: right ∨ right <+: left

namespace RootTree

/-! ## Children -/

theorem child?_setChild_self (segment : String) (tree : RootTree)
    (children : List (String × RootTree)) :
    child? segment (setChild segment tree children) = some tree := by
  unfold child? setChild
  rw [List.find?_append]
  have absent : (children.filter fun child => child.1 != segment).find?
      (fun child => child.1 == segment) = none := by
    rw [List.find?_eq_none]
    intro child member
    simpa using (List.mem_filter.mp member).2
  rw [absent]
  simp

theorem child?_cons (segment : String) (child : String × RootTree)
    (rest : List (String × RootTree)) :
    child? segment (child :: rest) =
      if child.1 = segment then some child.2 else child? segment rest := by
  by_cases hit : child.1 = segment <;> simp [child?, hit]

theorem child?_filter {segment other : String} (different : other ≠ segment)
    (children : List (String × RootTree)) :
    child? other (children.filter fun child => child.1 != segment) = child? other children := by
  induction children with
  | nil => rfl
  | cons child rest ih =>
      rw [child?_cons, List.filter_cons]
      by_cases dropped : child.1 = segment
      · have passed : ¬child.1 = other := fun hit => different (hit.symm.trans dropped)
        rw [if_neg (by simp [dropped]), if_neg passed, ih]
      · rw [if_pos (by simp [dropped]), child?_cons, ih]

theorem child?_setChild_of_ne {segment other : String} (different : other ≠ segment)
    (tree : RootTree) (children : List (String × RootTree)) :
    child? other (setChild segment tree children) = child? other children := by
  rw [← child?_filter different children]
  unfold child? setChild
  rw [List.find?_append]
  simp [Ne.symm different]

/-! ## The paths of a tree -/

/-- A path ends in a leaf of a tree. -/
def HasRoot : List String → RootTree → Prop
  | [], .leaf => True
  | segment :: rest, .branch children =>
    ∃ tree, child? segment children = some tree ∧ HasRoot rest tree
  | _, _ => False

theorem not_hasRoot_empty (path : List String) : ¬HasRoot path empty := by
  cases path with
  | nil => exact id
  | cons segment rest => rintro ⟨tree, found, _⟩; cases found

/-- The missing subtree has no roots. -/
theorem hasRoot_child (segment : String) (rest : List String)
    (children : List (String × RootTree)) :
    HasRoot rest ((child? segment children).getD empty) ↔
      HasRoot (segment :: rest) (.branch children) := by
  cases found : child? segment children with
  | none =>
      refine ⟨fun root => absurd root (not_hasRoot_empty rest), ?_⟩
      rintro ⟨tree, other, _⟩
      rw [found] at other
      cases other
  | some tree =>
      refine ⟨fun root => ⟨tree, found, root⟩, ?_⟩
      rintro ⟨_, other, root⟩
      rw [found] at other
      cases other
      exact root

/-- Every node of the tree leads to a leaf. -/
inductive Grown : RootTree → Prop where
  | leaf : Grown .leaf
  | branch {children : List (String × RootTree)} (inhabited : children ≠ [])
      (grown : ∀ segment tree, child? segment children = some tree → Grown tree) :
      Grown (.branch children)

theorem Grown.exists_root {tree : RootTree} (grown : Grown tree) : ∃ root, HasRoot root tree := by
  induction grown with
  | leaf => exact ⟨[], trivial⟩
  | @branch children inhabited grown ih =>
      obtain ⟨⟨segment, tree⟩, rest, rfl⟩ := List.exists_cons_of_ne_nil inhabited
      have found : child? segment ((segment, tree) :: rest) = some tree := by
        simp [child?]
      obtain ⟨root, has⟩ := ih segment tree found
      exact ⟨segment :: root, tree, found, has⟩

/-- The subtree that insertion goes on with is empty or grown again. -/
theorem child_empty_or_grown {segment : String} {children : List (String × RootTree)}
    (grown : RootTree.branch children = empty ∨ Grown (.branch children)) :
    (child? segment children).getD empty = empty ∨
      Grown ((child? segment children).getD empty) := by
  cases found : child? segment children with
  | none => exact .inl rfl
  | some tree =>
      rcases grown with none | grown
      · cases none
        cases found
      · cases grown with
        | branch _ grown => exact .inr (grown segment tree found)

/-! ## Adding one root -/

/-- Adding a root adds its path and no other. -/
theorem hasRoot_insert? {path : List String} {tree larger : RootTree}
    (inserted : insert? path tree = some larger) (root : List String) :
    HasRoot root larger ↔ HasRoot root tree ∨ root = path := by
  induction path generalizing tree larger root with
  | nil =>
      cases tree with
      | leaf => cases inserted
      | branch children =>
          cases children with
          | cons _ _ => cases inserted
          | nil =>
              cases inserted
              cases root with
              | nil => exact ⟨fun _ => .inr rfl, fun _ => trivial⟩
              | cons segment rest =>
                  refine ⟨fun root => root.elim, ?_⟩
                  rintro (root | same)
                  · exact absurd root (not_hasRoot_empty _)
                  · cases same
  | cons segment rest ih =>
      cases tree with
      | leaf => cases inserted
      | branch children =>
          obtain ⟨subtree, step, rfl⟩ := Option.map_eq_some_iff.mp inserted
          cases root with
          | nil => exact ⟨fun root => root.elim, fun either => either.elim id nofun⟩
          | cons first others =>
              by_cases same : first = segment
              · subst same
                have here : HasRoot (first :: others) (.branch (setChild first subtree children)) ↔
                    HasRoot others subtree := by
                  simp only [HasRoot, child?_setChild_self, Option.some.injEq, exists_eq_left']
                rw [here, ih step, hasRoot_child, List.cons.injEq]
                simp
              · have elsewhere :
                    HasRoot (first :: others) (.branch (setChild segment subtree children)) ↔
                      HasRoot (first :: others) (.branch children) := by
                  simp only [HasRoot, child?_setChild_of_ne same]
                rw [elsewhere, List.cons.injEq]
                simp [same]

/-- Insertion leaves no barren branch. -/
theorem grown_insert? {path : List String} {tree larger : RootTree}
    (inserted : insert? path tree = some larger) (grown : tree = empty ∨ Grown tree) :
    Grown larger := by
  induction path generalizing tree larger with
  | nil =>
      cases tree with
      | leaf => cases inserted
      | branch children =>
          cases children with
          | cons _ _ => cases inserted
          | nil => cases inserted; exact .leaf
  | cons segment rest ih =>
      cases tree with
      | leaf => cases inserted
      | branch children =>
          obtain ⟨subtree, step, rfl⟩ := Option.map_eq_some_iff.mp inserted
          refine .branch (by simp [setChild]) fun other found known => ?_
          by_cases same : other = segment
          · subst same
            rw [child?_setChild_self] at known
            cases known
            exact ih step (child_empty_or_grown grown)
          · rw [child?_setChild_of_ne same] at known
            rcases grown with none | grown
            · cases none
              cases known
            · cases grown with
              | branch _ grown => exact grown other found known

/-- **A root is refused exactly when it overlaps one that is there.** -/
theorem insert?_eq_none_iff {path : List String} {tree : RootTree}
    (grown : tree = empty ∨ Grown tree) :
    insert? path tree = none ↔ ∃ root, HasRoot root tree ∧ Path.Overlap root path := by
  induction path generalizing tree with
  | nil =>
      cases tree with
      | leaf => exact ⟨fun _ => ⟨[], trivial, .inl List.prefix_rfl⟩, fun _ => rfl⟩
      | branch children =>
          cases children with
          | nil => exact ⟨nofun, fun ⟨root, has, _⟩ => absurd has (not_hasRoot_empty root)⟩
          | cons child rest =>
              refine ⟨fun _ => ?_, fun _ => rfl⟩
              obtain ⟨root, has⟩ := (grown.resolve_left nofun).exists_root
              exact ⟨root, has, .inr List.nil_prefix⟩
  | cons segment rest ih =>
      cases tree with
      | leaf => exact ⟨fun _ => ⟨[], trivial, .inl List.nil_prefix⟩, fun _ => rfl⟩
      | branch children =>
          have step : insert? (segment :: rest) (.branch children) = none ↔
              insert? rest ((child? segment children).getD empty) = none := by
            simp only [insert?, Option.map_eq_none_iff]
          rw [step, ih (child_empty_or_grown grown)]
          constructor
          · rintro ⟨root, has, overlap⟩
            refine ⟨segment :: root, (hasRoot_child segment root children).mp has, ?_⟩
            exact overlap.imp (List.prefix_cons_inj segment).mpr (List.prefix_cons_inj segment).mpr
          · rintro ⟨root, has, overlap⟩
            cases root with
            | nil => exact has.elim
            | cons first others =>
                have same : first = segment := by
                  rcases overlap with front | back
                  · exact (List.cons_prefix_cons.mp front).1
                  · exact (List.cons_prefix_cons.mp back).1.symm
                subst same
                refine ⟨others, (hasRoot_child first others children).mpr has, ?_⟩
                exact overlap.imp (List.prefix_cons_inj first).mp (List.prefix_cons_inj first).mp

/-! ## Adding roots one after the other -/

/-- The tree of all roots has exactly their paths, and no barren branch. -/
theorem insertAll_ok {roots : List String} {tree larger : RootTree}
    (inserted : insertAll roots tree = .ok larger) (grown : tree = empty ∨ Grown tree) :
    (larger = empty ∨ Grown larger) ∧ (roots ≠ [] → Grown larger) ∧
      ∀ path, HasRoot path larger ↔
        HasRoot path tree ∨ ∃ root ∈ roots, Path.segments root = path := by
  induction roots generalizing tree with
  | nil =>
      cases inserted
      exact ⟨grown, fun inhabited => absurd rfl inhabited, fun path => by simp⟩
  | cons root rest ih =>
      unfold insertAll at inserted
      split at inserted
      · next grownTree step =>
          have here := grown_insert? step grown
          obtain ⟨later, _, paths⟩ := ih inserted (.inr here)
          have final : Grown larger := by
            by_cases last : rest = []
            · subst last
              cases inserted
              exact here
            · exact (ih inserted (.inr here)).2.1 last
          refine ⟨.inr final, fun _ => final, fun path => ?_⟩
          rw [paths, hasRoot_insert? step, or_assoc, List.exists_mem_cons_iff, eq_comm]
      · cases inserted

/-- Roots that overlap neither one another nor the tree are all added. -/
theorem exists_insertAll {roots : List String} {tree : RootTree}
    (grown : tree = empty ∨ Grown tree)
    (apart : roots.Pairwise fun left right =>
      ¬Path.Overlap (Path.segments left) (Path.segments right))
    (outside : ∀ root ∈ roots, ∀ path, HasRoot path tree →
      ¬Path.Overlap path (Path.segments root)) :
    ∃ larger, insertAll roots tree = .ok larger := by
  induction roots generalizing tree with
  | nil => exact ⟨tree, rfl⟩
  | cons root rest ih =>
      obtain ⟨first, others⟩ := List.pairwise_cons.mp apart
      cases step : insert? (Path.segments root) tree with
      | none =>
          obtain ⟨path, has, overlap⟩ := (insert?_eq_none_iff grown).mp step
          exact absurd overlap (outside root List.mem_cons_self path has)
      | some next =>
          have free : ∀ other ∈ rest, ∀ path, HasRoot path next →
              ¬Path.Overlap path (Path.segments other) := by
            intro other member path has
            rcases (hasRoot_insert? step path).mp has with before | rfl
            · exact outside other (List.mem_cons_of_mem _ member) path before
            · exact first other member
          obtain ⟨larger, inserted⟩ := ih (.inr (grown_insert? step grown)) others free
          refine ⟨larger, ?_⟩
          unfold insertAll
          rw [step]
          exact inserted

end RootTree

end Rego
