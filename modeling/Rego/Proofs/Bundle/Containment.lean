import Rego.Proofs.Bundle.Roots
import Rego.Proofs.Value.Fields
import Rego.Bundle.Loading

/-!
# Data below the roots

A value holds values at paths of keys (`Value.HoldsAt`). Data lies within roots when everything it
holds stands below a root, objects on the way to a root excepted (`Within`). The test of a bundle
walks its tree of roots and the data together; it decides exactly this, because the subtree at a key
has the roots that go through the key (`RootTree.contains_iff`). So no bundle that was loaded has
data elsewhere, and data elsewhere is what loading refuses last (`Bundle.data_within_roots`).
-/

namespace Rego

set_option autoImplicit false

/-- A value holds a value at a path of object keys. -/
inductive Value.HoldsAt : Value → List Value → Value → Prop where
  | here (value : Value) : HoldsAt value [] value
  | field {fields : List (Value × Value)} {key value held : Value} {path : List Value}
      (member : (key, value) ∈ fields) (below : HoldsAt value path held) :
      HoldsAt (.object fields) (key :: path) held

/-- The keys that a path of segments goes through. -/
def Path.keys (path : List String) : List Value := path.map .string

/-- A value at a path belongs to roots: it lies below one of them, or is an object on the way to
one. -/
def Belongs (root : List String → Prop) (path : List Value) (value : Value) : Prop :=
  (∃ segments, root segments ∧ Path.keys segments <+: path) ∨
    value.kind = .object ∧ ∃ segments, root segments ∧ path <+: Path.keys segments

/-- All that a value holds belongs to roots. -/
def Owned (root : List String → Prop) (data : Value) : Prop :=
  ∀ path value, data.HoldsAt path value → Belongs root path value

/-- All that a value holds belongs to the roots of a manifest. -/
def Within (roots : List String) (data : Value) : Prop :=
  Owned (fun path => ∃ root ∈ roots, Path.segments root = path) data

theorem Owned.congr {root other : List String → Prop} (same : ∀ path, root path ↔ other path)
    (data : Value) : Owned root data ↔ Owned other data := by
  have equal : root = other := funext fun path => propext (same path)
  rw [equal]

namespace RootTree

/-! ## One step down the tree -/

section Branch

variable {children : List (String × RootTree)}

/-- Below a key stand the roots of the subtree at the key. -/
theorem exists_root_below_iff (key : Value) (path : List Value) :
    (∃ root, HasRoot root (.branch children) ∧ Path.keys root <+: key :: path) ↔
      ∃ name tree, key = .string name ∧ child? name children = some tree ∧
        ∃ root, HasRoot root tree ∧ Path.keys root <+: path := by
  constructor
  · rintro ⟨root, has, front⟩
    cases root with
    | nil => exact has.elim
    | cons name rest =>
        obtain ⟨tree, found, below⟩ := has
        obtain ⟨same, front⟩ := List.cons_prefix_cons.mp front
        exact ⟨name, tree, same.symm, found, rest, below, front⟩
  · rintro ⟨name, tree, rfl, found, root, has, front⟩
    exact ⟨name :: root, ⟨tree, found, has⟩, List.cons_prefix_cons.mpr ⟨rfl, front⟩⟩

/-- Through a key lead the roots of the subtree at the key. -/
theorem exists_root_through_iff (key : Value) (path : List Value) :
    (∃ root, HasRoot root (.branch children) ∧ key :: path <+: Path.keys root) ↔
      ∃ name tree, key = .string name ∧ child? name children = some tree ∧
        ∃ root, HasRoot root tree ∧ path <+: Path.keys root := by
  constructor
  · rintro ⟨root, has, front⟩
    cases root with
    | nil => exact has.elim
    | cons name rest =>
        obtain ⟨tree, found, below⟩ := has
        obtain ⟨same, front⟩ := List.cons_prefix_cons.mp front
        exact ⟨name, tree, same, found, rest, below, front⟩
  · rintro ⟨name, tree, rfl, found, root, has, front⟩
    exact ⟨name :: root, ⟨tree, found, has⟩, List.cons_prefix_cons.mpr ⟨rfl, front⟩⟩

/-- A value below a key belongs to the roots of a branch when there is a subtree at the key and the
value belongs to its roots. -/
theorem belongs_cons_iff (key : Value) (path : List Value) (value : Value) :
    Belongs (HasRoot · (.branch children)) (key :: path) value ↔
      ∃ name tree, key = .string name ∧ child? name children = some tree ∧
        Belongs (HasRoot · tree) path value := by
  unfold Belongs
  rw [exists_root_below_iff, exists_root_through_iff]
  constructor
  · rintro (⟨name, tree, same, found, below⟩ | ⟨object, name, tree, same, found, through⟩)
    · exact ⟨name, tree, same, found, .inl below⟩
    · exact ⟨name, tree, same, found, .inr ⟨object, through⟩⟩
  · rintro ⟨name, tree, same, found, below | ⟨object, through⟩⟩
    · exact .inl ⟨name, tree, same, found, below⟩
    · exact .inr ⟨object, name, tree, same, found, through⟩

/-- A field belongs to the roots of a branch. -/
def OwnsField (children : List (String × RootTree)) (field : Value × Value) : Prop :=
  ∃ name tree, field.1 = .string name ∧ child? name children = some tree ∧
    Owned (HasRoot · tree) field.2

/-- An object belongs to the roots of a branch when its fields do. -/
theorem owned_object_iff (grown : Grown (.branch children)) (fields : List (Value × Value)) :
    Owned (HasRoot · (.branch children)) (.object fields) ↔
      ∀ field ∈ fields, OwnsField children field := by
  constructor
  · rintro owned ⟨key, value⟩ member
    obtain ⟨name, tree, same, found, _⟩ :=
      (belongs_cons_iff key [] value).mp (owned _ _ (.field member (.here value)))
    refine ⟨name, tree, same, found, fun path held below => ?_⟩
    obtain ⟨other, tree', same', found', belongs⟩ :=
      (belongs_cons_iff key path held).mp (owned _ _ (.field member below))
    cases same.symm.trans same'
    cases found.symm.trans found'
    exact belongs
  · intro owned path held holds
    cases holds with
    | here =>
        obtain ⟨root, has⟩ := grown.exists_root
        exact .inr ⟨rfl, root, has, List.nil_prefix⟩
    | @field _ key value _ path member below =>
        obtain ⟨name, tree, same, found, owned⟩ := owned (key, value) member
        exact (belongs_cons_iff key path held).mpr
          ⟨name, tree, same, found, owned path held below⟩

/-- Only objects belong to the roots of a branch. -/
theorem not_owned_of_not_object {data : Value} (scalar : data.kind ≠ .object) :
    ¬Owned (HasRoot · (.branch children)) data := by
  intro owned
  rcases owned [] data (.here data) with ⟨root, has, front⟩ | ⟨object, _⟩
  · cases root with
    | nil => exact has.elim
    | cons name rest => exact absurd (List.prefix_nil.mp front) nofun
  · exact scalar object

theorem contains_branch_of_not_object {data : Value} (scalar : data.kind ≠ .object) :
    contains (.branch children) data = false := by
  cases data <;> first | exact absurd rfl scalar | rfl

theorem contains_iff_of_not_object {data : Value} (scalar : data.kind ≠ .object) :
    contains (.branch children) data = true ↔ Owned (HasRoot · (.branch children)) data := by
  rw [contains_branch_of_not_object scalar]
  exact ⟨nofun, fun owned => absurd owned (not_owned_of_not_object scalar)⟩

theorem contains_congr_of_not_object {data other : Value} (scalar : data.kind ≠ .object)
    (same : data.equals other = true) :
    contains (.branch children) data = contains (.branch children) other := by
  rw [contains_branch_of_not_object scalar, contains_branch_of_not_object]
  rw [← Value.kind_eq_of_equals same]
  exact scalar

end Branch

theorem owned_leaf (data : Value) : Owned (HasRoot · .leaf) data :=
  fun _ _ _ => .inl ⟨[], trivial, List.nil_prefix⟩

/-! ## The whole walk -/

mutual

/-- **The test says whether all data of a value belongs to the roots of the tree.** -/
theorem contains_iff : ∀ (tree : RootTree), Grown tree → ∀ data : Value,
    contains tree data = true ↔ Owned (HasRoot · tree) data
  | .leaf, _, data => by
      cases data <;> exact ⟨fun _ => owned_leaf _, fun _ => rfl⟩
  | .branch children, grown, .object fields =>
      (containsFields_iff children grown fields).trans (owned_object_iff grown fields).symm
  | .branch _, _, .null => contains_iff_of_not_object nofun
  | .branch _, _, .bool _ => contains_iff_of_not_object nofun
  | .branch _, _, .number _ => contains_iff_of_not_object nofun
  | .branch _, _, .string _ => contains_iff_of_not_object nofun
  | .branch _, _, .array _ => contains_iff_of_not_object nofun
  | .branch _, _, .set _ => contains_iff_of_not_object nofun
  | .branch _, _, .undefined => contains_iff_of_not_object nofun
termination_by structural _ _ data => data

/-- The test goes through the fields one by one. -/
theorem containsFields_iff : ∀ (children : List (String × RootTree)), Grown (.branch children) →
    ∀ fields : List (Value × Value),
      containsFields children fields = true ↔ ∀ field ∈ fields, OwnsField children field
  | _, _, [] => ⟨fun _ _ member => absurd member List.not_mem_nil, fun _ => rfl⟩
  | children, grown, (key, value) :: rest => by
      have later := containsFields_iff children grown rest
      rw [List.forall_mem_cons, ← later]
      by_cases string : ∃ name, key = .string name
      · obtain ⟨name, rfl⟩ := string
        cases found : child? name children with
        | none =>
            refine ⟨fun passed => by simp [containsFields, found] at passed, ?_⟩
            rintro ⟨⟨_, tree, ⟨⟩, known, _⟩, _⟩
            rw [found] at known
            cases known
        | some tree =>
            have below : Grown tree := by
              cases grown with
              | branch _ grown => exact grown name tree found
            have first : OwnsField children (.string name, value) ↔
                contains tree value = true := by
              rw [contains_iff tree below value]
              constructor
              · rintro ⟨_, other, ⟨⟩, known, owned⟩
                cases found.symm.trans known
                exact owned
              · exact fun owned => ⟨name, tree, rfl, found, owned⟩
            rw [first]
            simp [containsFields, found]
      · refine ⟨fun passed => ?_, ?_⟩
        · cases key <;> first | exact absurd ⟨_, rfl⟩ string | cases passed
        · rintro ⟨⟨name, _, same, _⟩, _⟩
          exact absurd ⟨name, same⟩ string
termination_by structural _ _ fields => fields

end

/-! ## Equal data -/

mutual

/-- The test does not tell equal data apart. -/
theorem contains_congr : ∀ (tree : RootTree) (data : Value) {other : Value},
    data.equals other = true → contains tree data = contains tree other
  | .leaf, data, other, _ => by cases data <;> cases other <;> rfl
  | .branch children, .object fields, other, same => by
      cases other with
      | object others => exact containsFields_congr children fields same
      | _ => cases same
  | .branch _, .null, _, same => contains_congr_of_not_object nofun same
  | .branch _, .bool _, _, same => contains_congr_of_not_object nofun same
  | .branch _, .number _, _, same => contains_congr_of_not_object nofun same
  | .branch _, .string _, _, same => contains_congr_of_not_object nofun same
  | .branch _, .array _, _, same => contains_congr_of_not_object nofun same
  | .branch _, .set _, _, same => contains_congr_of_not_object nofun same
  | .branch _, .undefined, _, same => contains_congr_of_not_object nofun same
termination_by structural _ data => data

theorem containsFields_congr : ∀ (children : List (String × RootTree))
    (fields : List (Value × Value)) {others : List (Value × Value)},
    Value.equalFields fields others = true →
    containsFields children fields = containsFields children others
  | _, [], others, same => by
      cases others with
      | nil => rfl
      | cons _ _ => cases same
  | children, (key, value) :: rest, others, same => by
      cases others with
      | nil => cases same
      | cons other others =>
          obtain ⟨otherKey, otherValue⟩ := other
          simp only [Value.equalFields, Bool.and_eq_true] at same
          obtain ⟨⟨keys, values⟩, rests⟩ := same
          cases key with
          | string name =>
              cases otherKey with
              | string otherName =>
                  cases beq_iff_eq.mp keys
                  simp only [containsFields]
                  cases child? name children with
                  | none => rfl
                  | some tree =>
                      simp only
                      rw [contains_congr tree value values,
                        containsFields_congr children rest rests]
              | _ => cases keys
          | _ => cases otherKey <;> first | rfl | cases keys
termination_by structural _ fields => fields

end

end RootTree

namespace Bundle

/-! ## Bundles -/

theorem make_eq_ok_iff {manifest : Manifest} {plans policies : List BundleFile} {data : Value}
    {bundle : Bundle} :
    make manifest plans policies data = .ok bundle ↔ manifest.roots ≠ [] ∧
      ∃ roots, RootTree.ofRoots manifest.roots = .ok roots ∧
        bundle = ⟨manifest, plans, policies, data, roots⟩ := by
  unfold make
  by_cases none : manifest.roots = []
  · simp [none]
  · cases made : RootTree.ofRoots manifest.roots with
    | error root => simp [none]
    | ok roots =>
        rw [if_neg (by simpa using none)]
        refine ⟨fun same => ⟨none, roots, rfl, (Except.ok.inj same).symm⟩, ?_⟩
        rintro ⟨_, _, ⟨⟩, rfl⟩
        rfl

theorem manifest_of_make {manifest : Manifest} {plans policies : List BundleFile} {data : Value}
    {bundle : Bundle} (made : make manifest plans policies data = .ok bundle) :
    bundle.manifest = manifest := by
  obtain ⟨_, _, _, rfl⟩ := make_eq_ok_iff.mp made
  rfl

/-- A bundle that was made owns the data within the roots of its manifest. -/
theorem rootsContain_iff {manifest : Manifest} {plans policies : List BundleFile}
    {content : Value} {bundle : Bundle}
    (made : make manifest plans policies content = .ok bundle) (data : Value) :
    bundle.rootsContain data = true ↔ Within manifest.roots data := by
  obtain ⟨inhabited, roots, ofRoots, rfl⟩ := make_eq_ok_iff.mp made
  obtain ⟨_, grown, paths⟩ := RootTree.insertAll_ok ofRoots (.inl rfl)
  refine (RootTree.contains_iff roots (grown inhabited) data).trans (Owned.congr ?_ data)
  intro path
  rw [paths path]
  exact or_iff_right (RootTree.not_hasRoot_empty path)

/-- Roots that do not overlap make a bundle. -/
theorem exists_make {manifest : Manifest} (inhabited : manifest.roots ≠ [])
    (apart : manifest.roots.Pairwise fun left right =>
      ¬Path.Overlap (Path.segments left) (Path.segments right))
    (plans policies : List BundleFile) (data : Value) :
    ∃ bundle, make manifest plans policies data = .ok bundle := by
  obtain ⟨roots, made⟩ := RootTree.exists_insertAll (.inl rfl) apart
    fun _ _ path has => absurd has (RootTree.not_hasRoot_empty path)
  exact ⟨_, make_eq_ok_iff.mpr ⟨inhabited, roots, made, rfl⟩⟩

/-- The bundle of an assembly, before its data is looked at. -/
def ofParts (assembly : Assembly) : Except BundleError Bundle :=
  make (assembly.manifest.getD Manifest.standard) (sortByPath assembly.plans)
    (sortByPath assembly.policies) assembly.data

theorem ofAssembly_eq (assembly : Assembly) :
    ofAssembly assembly = match ofParts assembly with
      | .error error => .error (.bundle error)
      | .ok bundle => if bundle.rootsContain bundle.data then .ok bundle
          else .error .escapedRoot := by
  unfold ofAssembly ofParts
  cases make (assembly.manifest.getD Manifest.standard) (sortByPath assembly.plans)
    (sortByPath assembly.policies) assembly.data with
  | error error => rfl
  | ok bundle => rfl

theorem load_eq_ofAssembly {source : List (Except LoadError BundleFile)}
    {files : List BundleFile} {assembly : Assembly} (read : collect source = .ok files)
    (assembled : files.foldlM Assembly.add Assembly.empty = .ok assembly) :
    load source = ofAssembly assembly := by
  unfold load
  rw [read]
  change files.foldlM Assembly.add Assembly.empty >>= ofAssembly = _
  rw [assembled]
  rfl

theorem exists_assembly_of_load {source : List (Except LoadError BundleFile)} {bundle : Bundle}
    (loaded : load source = .ok bundle) :
    ∃ files assembly, collect source = .ok files ∧
      files.foldlM Assembly.add Assembly.empty = .ok assembly ∧
      ofAssembly assembly = .ok bundle := by
  unfold load at loaded
  cases read : collect source with
  | error error => rw [read] at loaded; cases loaded
  | ok files =>
      rw [read] at loaded
      change files.foldlM Assembly.add Assembly.empty >>= ofAssembly = _ at loaded
      cases assembled : files.foldlM Assembly.add Assembly.empty with
      | error error => rw [assembled] at loaded; cases loaded
      | ok assembly =>
          rw [assembled] at loaded
          exact ⟨files, assembly, rfl, assembled, loaded⟩

/-- **Data stays within the roots.** Roots that do not overlap make a bundle, whose test accepts
exactly the data within them; a bundle that was loaded has its data within its roots; and when all
else is in order, data elsewhere is refused as escaped. -/
theorem data_within_roots :
    (∀ (manifest : Manifest) (plans policies : List BundleFile) (content : Value),
      manifest.roots ≠ [] →
      (manifest.roots.Pairwise fun left right =>
        ¬Path.Overlap (Path.segments left) (Path.segments right)) →
      ∃ bundle, make manifest plans policies content = .ok bundle ∧
        ∀ data, bundle.rootsContain data = true ↔ Within manifest.roots data) ∧
    (∀ (source : List (Except LoadError BundleFile)) (bundle : Bundle),
      load source = .ok bundle → Within bundle.manifest.roots bundle.data) ∧
    ∀ (source : List (Except LoadError BundleFile)) (files : List BundleFile)
      (assembly : Assembly) (bundle : Bundle),
      collect source = .ok files →
      files.foldlM Assembly.add Assembly.empty = .ok assembly →
      ofParts assembly = .ok bundle →
      ¬Within bundle.manifest.roots bundle.data → load source = .error .escapedRoot := by
  refine ⟨?_, ?_, ?_⟩
  · intro manifest plans policies content inhabited apart
    obtain ⟨bundle, made⟩ := exists_make inhabited apart plans policies content
    exact ⟨bundle, made, rootsContain_iff made⟩
  · intro source bundle loaded
    obtain ⟨_, assembly, _, _, checked⟩ := exists_assembly_of_load loaded
    rw [ofAssembly_eq] at checked
    cases made : ofParts assembly with
    | error error => rw [made] at checked; cases checked
    | ok parts =>
        rw [made] at checked
        by_cases inside : parts.rootsContain parts.data = true
        · simp only [inside, if_true, Except.ok.injEq] at checked
          subst checked
          rw [manifest_of_make made]
          exact (rootsContain_iff made _).mp inside
        · simp [inside] at checked
  · intro source files assembly bundle read assembled made outside
    rw [load_eq_ofAssembly read assembled, ofAssembly_eq, made]
    rw [manifest_of_make made, ← rootsContain_iff made] at outside
    simp [outside]

/-- A manifest that owns what stands below one key, beside data below another. -/
def strayFiles : List BundleFile :=
  [⟨".manifest", Text.bytes "\x7b\"roots\":[\"a\"]\x7d"⟩,
    ⟨"data.json", Text.bytes "\x7b\"b\":true\x7d"⟩]

/-- Two roots side by side own what stands below them, the bundle of no files has its data within
its roots, and the stray files are refused. -/
theorem data_within_roots_samples :
    (∃ bundle, make ⟨"", ["a/b", "c"], .one, .null⟩ [] [] .null = .ok bundle ∧
      ∀ data, bundle.rootsContain data = true ↔ Within ["a/b", "c"] data) ∧
    (∃ bundle, load [] = .ok bundle ∧ Within bundle.manifest.roots bundle.data) ∧
    load (strayFiles.map .ok) = .error .escapedRoot := by
  refine ⟨?_, ?_, ?_⟩
  · have apart : ["a/b", "c"].Pairwise fun left right =>
        ¬Path.Overlap (Path.segments left) (Path.segments right) := by
      have first : Path.segments "a/b" = ["a", "b"] := by decide +kernel
      have second : Path.segments "c" = ["c"] := by decide +kernel
      simp [first, second, Path.Overlap]
    exact data_within_roots.1 ⟨"", ["a/b", "c"], .one, .null⟩ [] [] .null
      (List.cons_ne_nil _ _) apart
  · have loaded : load [] = .ok ⟨Manifest.standard, [], [], .object [], .leaf⟩ := by
      with_unfolding_all rfl
    exact ⟨_, loaded, data_within_roots.2.1 _ _ loaded⟩
  · have assembled : strayFiles.foldlM Assembly.add Assembly.empty =
        .ok ⟨some ⟨"", ["a"], .one, .null⟩, .object [(.string "b", .bool true)], [], []⟩ := by
      with_unfolding_all rfl
    have made : ofParts ⟨some ⟨"", ["a"], .one, .null⟩, .object [(.string "b", .bool true)], [],
        []⟩ = .ok ⟨⟨"", ["a"], .one, .null⟩, [], [], .object [(.string "b", .bool true)],
          .branch [("a", .leaf)]⟩ := by with_unfolding_all rfl
    have outside := (rootsContain_iff made (.object [(.string "b", .bool true)])).not.mp (by decide)
    exact data_within_roots.2.2 _ _ _ _ rfl assembled made outside

end Bundle

end Rego
