import Rego.Proofs.Bundle.Gathering
import Rego.Proofs.Bundle.Overlap
import Rego.Proofs.Bundle.Reordering

/-!
# The outcome of loading

Loading has one outcome for each list of files. The first failure of the source comes before all
else; then the first file that offends; then roots that overlap; then data that escapes them
(`Refusal`). Whatever is not refused makes the bundle that the files are gathered to: its policies
and plans are those of the files, unaltered and in the order of their paths, and its data is the
join of the data of the files (`Contents`). Files that belong into no bundle take no part in this
(`load_eq_of_relevant`).
-/

namespace Rego

set_option autoImplicit false

/-! ## Roots of manifests -/

namespace Manifest

theorem roots_ne_nil_of_roots? {document : Document.Raw} {roots : List String}
    (read : roots? document = some roots) : roots ≠ [] := by
  obtain ⟨listed, _, rfl⟩ := Option.map_eq_some_iff.mp read
  by_cases none : listed.isEmpty = true
  · rw [if_pos none]
    exact List.cons_ne_nil _ _
  · rw [if_neg none]
    simpa using none

/-- A manifest that was read has roots. -/
theorem roots_ne_nil_of_decode? {bytes : List UInt8} {manifest : Manifest}
    (read : decode? bytes = some manifest) : manifest.roots ≠ [] := by
  obtain ⟨document, _, read⟩ := Option.bind_eq_some_iff.mp read
  obtain ⟨fields, _, read⟩ := Option.bind_eq_some_iff.mp read
  split at read
  · next revision roots version metadata _ =>
      obtain ⟨_, _, read⟩ := Option.bind_eq_some_iff.mp read
      obtain ⟨found, defaulted, read⟩ := Option.bind_eq_some_iff.mp read
      obtain ⟨_, _, read⟩ := Option.bind_eq_some_iff.mp read
      obtain ⟨_, _, read⟩ := Option.bind_eq_some_iff.mp read
      cases read
      cases roots with
      | none =>
          cases defaulted
          exact List.cons_ne_nil _ _
      | some document => exact roots_ne_nil_of_roots? defaulted
  · cases read

end Manifest

namespace Bundle

open Value

/-! ## Files in the order of their paths -/

/-- The same files in the order of their paths, those of equal paths in the order they had. -/
structure OrderedByPath (files sorted : List BundleFile) : Prop where
  perm : sorted.Perm files
  ascending : sorted.Pairwise fun left right => left.path ≤ right.path
  stable : ∀ path : String, (sorted.filter fun file => file.path == path) =
    files.filter fun file => file.path == path

theorem orderedByPath_sortByPath (files : List BundleFile) :
    OrderedByPath files (sortByPath files) where
  perm := List.mergeSort_perm _ _
  ascending := pairwise_sortByPath files
  stable path := by
    have perm : (sortByPath files).Perm files := List.mergeSort_perm _ _
    have equal : (files.filter fun file => file.path == path).Pairwise
        fun left right => decide (left.path ≤ right.path) = true := by
      refine List.pairwise_of_forall_mem_list fun left member right member' => ?_
      have first := beq_iff_eq.mp (List.mem_filter.mp member).2
      have second := beq_iff_eq.mp (List.mem_filter.mp member').2
      rw [first, second]
      exact decide_eq_true (String.le_refl path)
    have kept : (files.filter fun file => file.path == path).Sublist (sortByPath files) :=
      List.sublist_mergeSort (fun first second third => by simpa using String.le_trans)
        (fun first second => by simpa using String.le_total first.path second.path) equal
        List.filter_sublist
    -- Files of one path stay in their order; as many of them were there before.
    have within := kept.filter fun file => file.path == path
    rw [List.filter_filter] at within
    simp only [Bool.and_self] at within
    exact (within.eq_of_length (perm.filter _).length_eq.symm).symm

/-! ## Files that take no part -/

/-- A failure, or a file that belongs into a bundle. -/
def relevant : Except LoadError BundleFile → Bool
  | .ok file => isBundleFile file.path
  | .error _ => true

theorem add_of_irrelevant {file : BundleFile} (irrelevant : ¬isBundleFile file.path = true)
    (assembly : Assembly) : assembly.add file = .ok assembly := by
  have role : FileRole.ofPath? file.path = none := by simpa [isBundleFile] using irrelevant
  simp [Assembly.add, role]

theorem foldlM_add_filter (files : List BundleFile) (assembly : Assembly) :
    (files.filter fun file => isBundleFile file.path).foldlM Assembly.add assembly =
      files.foldlM Assembly.add assembly := by
  induction files generalizing assembly with
  | nil => rfl
  | cons file rest ih =>
      rw [List.foldlM_cons, List.filter_cons]
      by_cases kept : isBundleFile file.path = true
      · rw [if_pos kept, List.foldlM_cons]
        exact bind_congr ih
      · rw [if_neg kept, add_of_irrelevant kept, ih]
        rfl

theorem collect_filter (source : List (Except LoadError BundleFile)) :
    collect (source.filter relevant) =
      (collect source).map (List.filter fun file => isBundleFile file.path) := by
  induction source with
  | nil => rfl
  | cons result rest ih =>
      cases result with
      | error error => rfl
      | ok file =>
          rw [List.filter_cons]
          have same : relevant (.ok file) = isBundleFile file.path := rfl
          by_cases kept : isBundleFile file.path = true
          · rw [if_pos (same.trans kept), collect, collect, ih]
            cases collect rest with
            | error error => rfl
            | ok files =>
                refine congrArg Except.ok ?_
                rw [List.filter_cons, if_pos kept]
          · rw [if_neg (same ▸ kept), collect, ih]
            cases collect rest with
            | error error => rfl
            | ok files =>
                refine congrArg Except.ok ?_
                rw [List.filter_cons, if_neg kept]

theorem load_filter (source : List (Except LoadError BundleFile)) :
    load (source.filter relevant) = load source := by
  unfold load ofFiles
  rw [collect_filter]
  cases collect source with
  | error error => rfl
  | ok files =>
      change (files.filter fun file => isBundleFile file.path).foldlM Assembly.add
        Assembly.empty >>= ofAssembly = files.foldlM Assembly.add Assembly.empty >>= ofAssembly
      rw [foldlM_add_filter]

/-- **Sources that differ only in files that belong into no bundle load to the same outcome.** -/
theorem load_eq_of_relevant {source other : List (Except LoadError BundleFile)}
    (same : source.filter relevant = other.filter relevant) : load source = load other := by
  rw [← load_filter source, same, load_filter]

/-! ## Failures of the source -/

theorem collect_of_error (files : List BundleFile) (error : LoadError)
    (rest : List (Except LoadError BundleFile)) :
    collect (files.map .ok ++ .error error :: rest) = .error error := by
  induction files with
  | nil => rfl
  | cons file files ih =>
      rw [List.map_cons, List.cons_append, collect, ih]
      rfl

/-- The first failure of a source is the outcome of loading it. -/
theorem load_of_error (files : List BundleFile) (error : LoadError)
    (rest : List (Except LoadError BundleFile)) :
    load (files.map .ok ++ .error error :: rest) = .error error := by
  rw [load, collect_of_error]
  rfl

/-- A source gives files only, or files before its first failure. -/
theorem files_or_error (source : List (Except LoadError BundleFile)) :
    (∃ files : List BundleFile, source = files.map .ok) ∨
      ∃ (files : List BundleFile) (error : LoadError)
        (rest : List (Except LoadError BundleFile)),
        source = files.map .ok ++ .error error :: rest := by
  induction source with
  | nil => exact .inl ⟨[], rfl⟩
  | cons result source ih =>
      cases result with
      | error error => exact .inr ⟨[], error, source, rfl⟩
      | ok file =>
          rcases ih with ⟨files, rfl⟩ | ⟨files, error, rest, rfl⟩
          · exact .inl ⟨file :: files, rfl⟩
          · exact .inr ⟨file :: files, error, rest, rfl⟩

/-! ## Files that were gathered -/

/-- The manifest of files, or the standard one. -/
def manifestOf (files : List BundleFile) : Manifest :=
  (gather files).manifest.getD Manifest.standard

theorem roots_manifestOf (files : List BundleFile) : (manifestOf files).roots ≠ [] := by
  unfold manifestOf
  cases found : (gather files).manifest with
  | none => exact List.cons_ne_nil _ _
  | some manifest =>
      obtain ⟨file, _, read⟩ := List.mem_filterMap.mp (List.mem_of_head? found)
      unfold manifestOf? at read
      split at read
      · exact Manifest.roots_ne_nil_of_decode? read
      · cases read

/-- Why files make no bundle, in the order in which it is found out. -/
inductive Refusal (files : List BundleFile) : LoadError → Prop where
  | offence {error : LoadError} (first : FirstOffence files error) : Refusal files error
  | overlap {root : String} (clear : Clear files)
      (first : FirstOverlap (manifestOf files).roots root) :
      Refusal files (.bundle (.overlap root))
  | escaped (clear : Clear files) (apart : Apart (manifestOf files).roots)
      (outside : ¬Within (manifestOf files).roots (dataOf files)) : Refusal files .escapedRoot

/-- The bundle that files make with the tree of their roots. -/
def bundleOf (files : List BundleFile) (roots : RootTree) : Bundle where
  manifest := manifestOf files
  plans := sortByPath (files.filter (hasRole .plan))
  policies := sortByPath (files.filter (hasRole .policy))
  data := dataOf files
  roots := roots

/-- Loading files ends in one of these ways. -/
inductive Outcome (files : List BundleFile) : Except LoadError Bundle → Prop where
  | refused {error : LoadError} (refusal : Refusal files error) : Outcome files (.error error)
  | loaded {roots : RootTree} (clear : Clear files) (apart : Apart (manifestOf files).roots)
      (within : Within (manifestOf files).roots (dataOf files)) :
      Outcome files (.ok (bundleOf files roots))

theorem outcome_load (files : List BundleFile) : Outcome files (load (files.map .ok)) := by
  rw [load_map_ok]
  rcases clear_or_offence files with clear | ⟨error, first⟩
  · rw [(foldlM_add_of_clear clear).1]
    change Outcome files (ofAssembly (gather files))
    rw [ofAssembly_eq]
    have inhabited := roots_manifestOf files
    cases made : ofParts (gather files) with
    | error error =>
        obtain ⟨root, first, rfl⟩ :=
          (make_eq_error_iff.mp made).resolve_left fun none => inhabited none.1
        exact .refused (.overlap clear first)
    | ok bundle =>
        obtain ⟨_, roots, tree, rfl⟩ := make_eq_ok_iff.mp made
        have apart := RootTree.ofRoots_eq_ok_iff.mp ⟨roots, tree⟩
        have inside : (bundleOf files roots).rootsContain (dataOf files) = true ↔
            Within (manifestOf files).roots (dataOf files) := rootsContain_iff made (dataOf files)
        change Outcome files (if (bundleOf files roots).rootsContain (dataOf files) = true then
          .ok (bundleOf files roots) else .error .escapedRoot)
        by_cases within : Within (manifestOf files).roots (dataOf files)
        · rw [if_pos (inside.mpr within)]
          exact .loaded clear apart within
        · rw [if_neg (inside.not.mpr within)]
          exact .refused (.escaped clear apart within)
  · rw [foldlM_add_of_offence first]
    exact .refused (.offence first)

/-! ## Refusals -/

/-- Files are refused for one reason only. -/
theorem Refusal.unique {files : List BundleFile} {error error' : LoadError}
    (one : Refusal files error) (two : Refusal files error') : error = error' := by
  cases one with
  | offence first =>
      cases two with
      | offence first' =>
          have same := foldlM_add_of_offence first
          rw [foldlM_add_of_offence first'] at same
          exact (Except.error.inj same).symm
      | overlap clear => exact absurd clear first.not_clear
      | escaped clear => exact absurd clear first.not_clear
  | overlap clear first =>
      cases two with
      | offence first' => exact absurd clear first'.not_clear
      | overlap _ first' => rw [first.unique first']
      | escaped _ apart => exact absurd apart first.not_apart
  | escaped clear apart _ =>
      cases two with
      | offence first' => exact absurd clear first'.not_clear
      | overlap _ first' => exact absurd apart first'.not_apart
      | escaped => rfl

/-- What is refused is not loaded. -/
theorem Refusal.not_loaded {files : List BundleFile} {error : LoadError} {bundle : Bundle}
    (refusal : Refusal files error) : ¬Outcome files (.ok bundle) := by
  intro loaded
  cases loaded with
  | loaded clear apart within =>
      cases refusal with
      | offence first => exact first.not_clear clear
      | overlap _ first => exact first.not_apart apart
      | escaped _ _ outside => exact outside within

theorem load_eq_error_iff {files : List BundleFile} {error : LoadError} :
    load (files.map .ok) = .error error ↔ Refusal files error := by
  have outcome := outcome_load files
  cases loaded : load (files.map .ok) with
  | error found =>
      rw [loaded] at outcome
      cases outcome with
      | refused refusal =>
          rw [Except.error.injEq]
          constructor
          · rintro rfl
            exact refusal
          · exact refusal.unique
  | ok bundle =>
      rw [loaded] at outcome
      exact ⟨nofun, fun refusal => absurd outcome refusal.not_loaded⟩

/-! ## Contents -/

/-- A file of a name, in whatever directory. -/
def named (name : String) (file : BundleFile) : Bool := Path.fileName file.path == name

/-- A policy, which has the extension of policies and no name that is kept for other files. -/
def isPolicy (file : BundleFile) : Bool :=
  decide (Path.fileName file.path ∉ [".manifest", "data.json", "plan.json"] ∧
    Path.extension? file.path = some "rego")

/-- A bundle has what files contribute, all of it and nothing else. -/
structure Contents (files : List BundleFile) (bundle : Bundle) : Prop where
  policies : OrderedByPath (files.filter isPolicy) bundle.policies
  plans : OrderedByPath (files.filter (named "plan.json")) bundle.plans
  readable : ∀ file ∈ files, Path.fileName file.path = "data.json" →
    ∃ value, Value.decode file.bytes = .ok value
  data : bundle.data = dataOf files
  manifest : files.filter (named ".manifest") = [] ∧ bundle.manifest = Manifest.standard ∨
    ∃ file, files.filter (named ".manifest") = [file] ∧
      Manifest.decode? file.bytes = some bundle.manifest
  roots : bundle.manifest.roots ≠ []

theorem hasRole_plan : hasRole .plan = named "plan.json" := by
  funext file
  rw [hasRole, named, decide_eq_decide.mpr FileRole.ofPath?_eq_plan_iff]
  rfl

theorem hasRole_manifest : hasRole .manifest = named ".manifest" := by
  funext file
  rw [hasRole, named, decide_eq_decide.mpr FileRole.ofPath?_eq_manifest_iff]
  rfl

theorem hasRole_policy : hasRole .policy = isPolicy := by
  funext file
  rw [hasRole, isPolicy, decide_eq_decide.mpr FileRole.ofPath?_eq_policy_iff]

/-- Data files among files that fit together can be read. -/
theorem Clear.readable {files : List BundleFile} (clear : Clear files) {file : BundleFile}
    (member : file ∈ files) (role : Path.fileName file.path = "data.json") :
    ∃ value, Value.decode file.bytes = .ok value := by
  obtain ⟨before, after, split⟩ := List.append_of_mem member
  obtain ⟨value, read, _⟩ := data_of_fits (clear before file after split) role
  exact ⟨value, read⟩

/-- Files that fit together have at most one manifest. -/
theorem Clear.filter_manifest {files : List BundleFile} (clear : Clear files) :
    files.filter (named ".manifest") = [] ∨
      ∃ file ∈ files, files.filter (named ".manifest") = [file] := by
  cases manifests : files.filter (named ".manifest") with
  | nil => exact .inl rfl
  | cons first rest =>
      obtain ⟨front, back, rfl, _, one, later⟩ := List.filter_eq_cons_iff.mp manifests
      cases rest with
      | nil => exact .inr ⟨first, by simp, rfl⟩
      | cons second rest =>
          obtain ⟨middle, back, rfl, _, two, _⟩ := List.filter_eq_cons_iff.mp later
          have fits := clear (front ++ first :: middle) second back (by simp)
          refine absurd (Offends.unexpectedManifest (beq_iff_eq.mp two) (.inl ?_)) (fits _)
          exact ⟨first, by simp, beq_iff_eq.mp one⟩

theorem contents_of_clear {files : List BundleFile} (clear : Clear files) (roots : RootTree) :
    Contents files (bundleOf files roots) where
  policies := by
    rw [← hasRole_policy]
    exact orderedByPath_sortByPath _
  plans := by
    rw [← hasRole_plan]
    exact orderedByPath_sortByPath _
  readable _ := clear.readable
  data := rfl
  manifest := by
    have manifests : files.filterMap manifestOf? =
        (files.filter (named ".manifest")).filterMap fun file => Manifest.decode? file.bytes := by
      rw [List.filterMap_filter, ← hasRole_manifest]
      rfl
    have known : (bundleOf files roots).manifest =
        (files.filterMap manifestOf?).head?.getD Manifest.standard := rfl
    rw [known, manifests]
    rcases clear.filter_manifest with none | ⟨file, member, one⟩
    · refine .inl ⟨none, ?_⟩
      rw [none]
      rfl
    · refine .inr ⟨file, one, ?_⟩
      have named := (List.mem_filter.mp (one ▸ List.mem_singleton_self file)).2
      obtain ⟨manifest, found⟩ := clear.exists_manifest member (beq_iff_eq.mp named)
      have read : Manifest.decode? file.bytes = some manifest := by
        unfold manifestOf? at found
        split at found
        · exact found
        · cases found
      rw [one]
      simp [read]
  roots := roots_manifestOf files

/-- **Loading loses, duplicates and alters nothing.** The first failure of a source is the outcome.
Otherwise a bundle that is loaded has exactly what the files contribute; files that belong into no
bundle do not matter; and loading fails exactly for the first file that offends, or else for roots
that overlap, or else for data that escapes them, but never for want of roots. -/
theorem load_outcome :
    (∀ source : List (Except LoadError BundleFile),
      (∃ files : List BundleFile, source = files.map .ok) ∨
      ∃ (files : List BundleFile) (error : LoadError)
        (rest : List (Except LoadError BundleFile)),
        source = files.map .ok ++ .error error :: rest ∧ load source = .error error) ∧
    (∀ (files : List BundleFile) (bundle : Bundle), load (files.map .ok) = .ok bundle →
      Contents files bundle) ∧
    (∀ source other : List (Except LoadError BundleFile),
      source.filter relevant = other.filter relevant → load source = load other) ∧
    (∀ (files : List BundleFile) (error : LoadError),
      load (files.map .ok) = .error error ↔ Refusal files error) ∧
    ∀ files : List BundleFile, load (files.map .ok) ≠ .error (.bundle .noRoots) := by
  refine ⟨fun source => ?_, fun files bundle loaded => ?_, fun source other => load_eq_of_relevant,
    fun files error => load_eq_error_iff, fun files failed => ?_⟩
  · rcases files_or_error source with fine | ⟨files, error, rest, rfl⟩
    · exact .inl fine
    · exact .inr ⟨files, error, rest, rfl, load_of_error files error rest⟩
  · have outcome := outcome_load files
    rw [loaded] at outcome
    cases outcome with
    | loaded clear => exact contents_of_clear clear _
  · cases load_eq_error_iff.mp failed with
    | offence first =>
        obtain ⟨_, _, _, _, _, offends⟩ := first
        cases offends

/-- A plan beside data, below the one root of the manifest. -/
def plannedFiles : List BundleFile :=
  [⟨"a/plan.json", []⟩, ⟨".manifest", Text.bytes "\x7b\"roots\":[\"a\"]\x7d"⟩,
    ⟨"a/data.json", Text.bytes "\x7b\"x\":true\x7d"⟩]

/-- The plan and the manifest are kept, the data stands at its directory, and a file that belongs
into no bundle makes no difference. -/
theorem load_outcome_planned :
    Contents plannedFiles ⟨⟨"", ["a"], .one, .null⟩, [⟨"a/plan.json", []⟩], [],
      .object [(.string "a", .object [(.string "x", .bool true)])], .branch [("a", .leaf)]⟩ ∧
    load (.ok ⟨"README.md", []⟩ :: plannedFiles.map .ok) = load (plannedFiles.map .ok) := by
  obtain ⟨_, contents, equal, _⟩ := load_outcome
  have assembled : plannedFiles.foldlM Assembly.add Assembly.empty =
      .ok ⟨some ⟨"", ["a"], .one, .null⟩,
        .object [(.string "a", .object [(.string "x", .bool true)])], [⟨"a/plan.json", []⟩], []⟩ := by
    with_unfolding_all rfl
  have made : ofParts ⟨some ⟨"", ["a"], .one, .null⟩,
      .object [(.string "a", .object [(.string "x", .bool true)])], [⟨"a/plan.json", []⟩], []⟩ =
      .ok ⟨⟨"", ["a"], .one, .null⟩, [⟨"a/plan.json", []⟩], [],
        .object [(.string "a", .object [(.string "x", .bool true)])], .branch [("a", .leaf)]⟩ := by
    with_unfolding_all rfl
  have loaded : load (plannedFiles.map .ok) =
      .ok ⟨⟨"", ["a"], .one, .null⟩, [⟨"a/plan.json", []⟩], [],
        .object [(.string "a", .object [(.string "x", .bool true)])], .branch [("a", .leaf)]⟩ := by
    rw [load_map_ok, assembled]
    change ofAssembly _ = _
    rw [ofAssembly_eq, made]
    rfl
  refine ⟨contents plannedFiles _ loaded, equal _ _ ?_⟩
  exact List.filter_cons_of_neg (by decide +kernel)

end Bundle

end Rego
