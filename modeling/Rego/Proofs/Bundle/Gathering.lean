import Rego.Proofs.Bundle.Assembly
import Rego.Proofs.Value.Patching
import Mathlib.Data.List.Induction

/-!
# What files are gathered to

Files that fit together are gathered into an assembly that says of itself what came from them: the
one manifest, the join of the overlays, and the plans and policies as they came (`gather`). A file
offends after others when it is a second or misplaced manifest, when its text cannot be read, when
it puts something else than an object at the root, or when its data is not compatible with the data
before it (`Offends`). A text that cannot be read is an error of its file, but where this is over
the shift of a number literal, it ends the program. Taking files one after the other gives exactly
what they are gathered to, or the error of the first that offends (`foldlM_add_of_clear`,
`foldlM_add_of_offence`).
-/

namespace Rego

set_option autoImplicit false

/-! ## Roles by file name -/

namespace FileRole

variable {path : String}

theorem ofPath?_eq_manifest_iff :
    ofPath? path = some .manifest ↔ Path.fileName path = ".manifest" := by
  unfold ofPath?
  split <;> simp_all

theorem ofPath?_eq_data_iff : ofPath? path = some .data ↔ Path.fileName path = "data.json" := by
  unfold ofPath?
  split <;> simp_all

theorem ofPath?_eq_plan_iff : ofPath? path = some .plan ↔ Path.fileName path = "plan.json" := by
  unfold ofPath?
  split <;> simp_all

theorem ofPath?_eq_policy_iff : ofPath? path = some .policy ↔
    Path.fileName path ∉ [".manifest", "data.json", "plan.json"] ∧
      Path.extension? path = some "rego" := by
  unfold ofPath?
  split <;> simp_all

end FileRole

namespace Bundle

open Value

/-! ## Gathering -/

/-- The data of files: the join of all overlays, each at the directory of its file. -/
def dataOf (files : List BundleFile) : Value :=
  (files.filterMap overlayOf?).foldl join (.object [])

/-- The assembly that has of files what they contribute. -/
def gather (files : List BundleFile) : Assembly where
  manifest := (files.filterMap manifestOf?).head?
  data := dataOf files
  plans := files.filter (hasRole .plan)
  policies := files.filter (hasRole .policy)

/-- A file does not fit after others, which fit together. -/
inductive Offends (before : List BundleFile) (file : BundleFile) : LoadError → Prop where
  | unexpectedManifest (role : Path.fileName file.path = ".manifest")
      (unexpected : (∃ other ∈ before, Path.fileName other.path = ".manifest") ∨
        file.path ≠ ".manifest") :
      Offends before file (.unexpectedManifest file.path)
  | undecodableManifest (place : file.path = ".manifest")
      (first : ∀ other ∈ before, Path.fileName other.path ≠ ".manifest")
      (unread : Manifest.decode? file.bytes = none)
      (survived : Manifest.overflows file.bytes = false) :
      Offends before file (.undecodableManifest file.path)
  | overflowingManifest (place : file.path = ".manifest")
      (first : ∀ other ∈ before, Path.fileName other.path ≠ ".manifest")
      (unread : Manifest.decode? file.bytes = none)
      (overflows : Manifest.overflows file.bytes = true) : Offends before file .shiftOverflow
  | undecodableData {error : ValueError} (role : Path.fileName file.path = "data.json")
      (unread : Value.decode file.bytes = .error error) (survived : error ≠ .shiftOverflow) :
      Offends before file (.undecodableData file.path)
  | overflowingData (role : Path.fileName file.path = "data.json")
      (overflows : Value.decode file.bytes = .error .shiftOverflow) :
      Offends before file .shiftOverflow
  | unexpectedData {value : Value} (role : Path.fileName file.path = "data.json")
      (read : Value.decode file.bytes = .ok value)
      (root : Path.directories file.path = []) (scalar : value.kind ≠ .object) :
      Offends before file (.unexpectedData file.path)
  | conflict {value : Value} {place : String} (role : Path.fileName file.path = "data.json")
      (read : Value.decode file.bytes = .ok value)
      (fits : Path.directories file.path = [] → value.kind = .object)
      (apart : ¬Compatible (dataOf before) (wrap (Path.directories file.path) value))
      (met : ((dataOf before).mergeAt (Path.directories file.path) value).conflict = some place) :
      Offends before file (.conflict file.path (.conflict place))

/-- No file offends after those before it. -/
def Clear (files : List BundleFile) : Prop :=
  ∀ before file after, files = before ++ file :: after → ∀ error, ¬Offends before file error

/-- The first file that offends does so with an error. -/
def FirstOffence (files : List BundleFile) (error : LoadError) : Prop :=
  ∃ before file after, files = before ++ file :: after ∧ Clear before ∧ Offends before file error

theorem clear_nil : Clear [] := by
  intro before file after split
  exact absurd split (List.append_ne_nil_of_right_ne_nil _ (List.cons_ne_nil _ _)).symm

theorem Clear.of_append {files others : List BundleFile} (clear : Clear (files ++ others)) :
    Clear files := by
  rintro before file after rfl
  exact clear before file (after ++ others) (by simp)

theorem clear_append_singleton_iff {before : List BundleFile} {file : BundleFile} :
    Clear (before ++ [file]) ↔ Clear before ∧ ∀ error, ¬Offends before file error := by
  constructor
  · intro clear
    exact ⟨clear.of_append, clear before file [] rfl⟩
  · rintro ⟨clear, fits⟩ front other after split
    -- The file in question is the new one when none comes after it.
    rcases List.eq_nil_or_concat after with rfl | ⟨after, last, rfl⟩
    · obtain ⟨rfl, same⟩ := List.append_inj' split rfl
      cases same
      exact fits
    · rw [List.concat_eq_append, ← List.cons_append, ← List.append_assoc] at split
      obtain ⟨rfl, _⟩ := List.append_inj' split rfl
      exact clear front other after rfl

/-- Files fit together, or there is a first that offends. -/
theorem clear_or_offence (files : List BundleFile) :
    Clear files ∨ ∃ error, FirstOffence files error := by
  induction files using List.reverseRecOn with
  | nil => exact .inl clear_nil
  | append_singleton before file ih =>
      rcases ih with clear | ⟨error, front, other, after, rfl, clear, offends⟩
      · by_cases fits : ∀ error, ¬Offends before file error
        · exact .inl (clear_append_singleton_iff.mpr ⟨clear, fits⟩)
        · obtain ⟨error, offends⟩ := not_forall_not.mp fits
          exact .inr ⟨error, before, file, [], rfl, clear, offends⟩
      · exact .inr ⟨error, front, other, after ++ [file], by simp, clear, offends⟩

theorem FirstOffence.not_clear {files : List BundleFile} {error : LoadError}
    (first : FirstOffence files error) : ¬Clear files := by
  obtain ⟨before, file, after, rfl, _, offends⟩ := first
  exact fun clear => clear before file after rfl error offends

/-! ## Taking a file after files that fit together -/

section Step

variable {before : List BundleFile} {file : BundleFile}

section Fits

variable (fits : ∀ error, ¬Offends before file error)

include fits

/-- A manifest that does not offend is the first, stands at the root and is read. -/
theorem manifest_of_fits (role : Path.fileName file.path = ".manifest") :
    (∀ other ∈ before, Path.fileName other.path ≠ ".manifest") ∧ file.path = ".manifest" ∧
      ∃ manifest, Manifest.decode? file.bytes = some manifest := by
  obtain ⟨alone, place⟩ := not_or.mp fun unexpected => fits _ (.unexpectedManifest role unexpected)
  have place := not_not.mp place
  have first : ∀ other ∈ before, Path.fileName other.path ≠ ".manifest" :=
    fun other member role => alone ⟨other, member, role⟩
  refine ⟨first, place, Option.ne_none_iff_exists'.mp fun unread => ?_⟩
  cases overflows : Manifest.overflows file.bytes with
  | true => exact fits _ (.overflowingManifest place first unread overflows)
  | false => exact fits _ (.undecodableManifest place first unread overflows)

/-- Data that does not offend is decoded, and at the root it is an object. -/
theorem data_of_fits (role : Path.fileName file.path = "data.json") :
    ∃ value, Value.decode file.bytes = .ok value ∧
      (Path.directories file.path = [] → value.kind = .object) := by
  cases read : Value.decode file.bytes with
  | error error =>
      by_cases overflows : error = .shiftOverflow
      · exact absurd (.overflowingData role (overflows ▸ read)) (fits _)
      · exact absurd (.undecodableData role read overflows) (fits _)
  | ok value =>
      refine ⟨value, rfl, fun root => ?_⟩
      by_contra scalar
      exact fits _ (.unexpectedData role read root scalar)

end Fits

/-- Manifests among files that fit together can be read. -/
theorem Clear.exists_manifest (clear : Clear before) {other : BundleFile} (member : other ∈ before)
    (role : Path.fileName other.path = ".manifest") :
    ∃ manifest, manifestOf? other = some manifest := by
  obtain ⟨front, back, split⟩ := List.append_of_mem member
  obtain ⟨_, _, manifest, read⟩ := manifest_of_fits (clear front other back split) role
  refine ⟨manifest, ?_⟩
  simp [manifestOf?, hasRole, FileRole.ofPath?_eq_manifest_iff.mpr role, read]

/-- Files that fit together have a manifest exactly when one of them is named so. -/
theorem Clear.isSome_manifest_iff (clear : Clear before) :
    (gather before).manifest.isSome = true ↔
      ∃ other ∈ before, Path.fileName other.path = ".manifest" := by
  have known : (gather before).manifest.isSome = true ↔
      ∃ other ∈ before, (manifestOf? other).isSome = true := by
    simp [gather]
  rw [known]
  refine exists_congr fun other => and_congr_right fun member => ⟨fun some => ?_, fun role => ?_⟩
  · by_contra role
    rw [← FileRole.ofPath?_eq_manifest_iff] at role
    simp [manifestOf?, hasRole, role] at some
  · obtain ⟨manifest, found⟩ := clear.exists_manifest member role
    rw [found]
    rfl

theorem isObject_iff {value : Value} : Assembly.isObject value = true ↔ value.kind = .object := by
  cases value <;> simp [Assembly.isObject, Value.kind]

/-- Data that fits where it stands is merged into the tree. -/
theorem addData_of_fits {assembly : Assembly} {value : Value}
    (read : Value.decode file.bytes = .ok value)
    (fits : Path.directories file.path = [] → value.kind = .object) :
    assembly.addData file =
      match (assembly.data.mergeAt (Path.directories file.path) value).conflict with
      | some place => .error (.conflict file.path (.conflict place))
      | none => .ok { assembly with
          data := (assembly.data.mergeAt (Path.directories file.path) value).value } := by
  have proceeds : ((Path.directories file.path).isEmpty && !Assembly.isObject value) = false := by
    by_cases root : Path.directories file.path = []
    · simp [isObject_iff.mpr (fits root)]
    · simp [root]
  simp only [Assembly.addData, read, proceeds]
  rfl

/-- After files that fit together, the first manifest at the root is expected. -/
theorem Clear.expects_manifest (clear : Clear before) (place : file.path = ".manifest")
    (first : ∀ other ∈ before, Path.fileName other.path ≠ ".manifest") :
    ¬((gather before).manifest.isSome = true ∨ file.path ≠ ".manifest") := by
  rw [clear.isSome_manifest_iff]
  rintro (⟨other, member, role⟩ | misplaced)
  · exact first other member role
  · exact misplaced place

/-- The first manifest is refused if it is not read. -/
theorem add_of_unread_manifest (clear : Clear before) (place : file.path = ".manifest")
    (first : ∀ other ∈ before, Path.fileName other.path ≠ ".manifest")
    (unread : Manifest.decode? file.bytes = none) : (gather before).add file =
      .error (if Manifest.overflows file.bytes then .shiftOverflow
        else .undecodableManifest file.path) := by
  have role : FileRole.ofPath? file.path = some .manifest := by
    rw [place]
    decide
  simp only [Assembly.add, role, Assembly.addManifest, if_neg (clear.expects_manifest place first),
    unread]

/-- A file that offends is refused with its error. -/
theorem add_of_offends (clear : Clear before) {error : LoadError}
    (offends : Offends before file error) : (gather before).add file = .error error := by
  cases offends with
  | unexpectedManifest role unexpected =>
      simp only [Assembly.add, FileRole.ofPath?_eq_manifest_iff.mpr role, Assembly.addManifest]
      rw [if_pos (unexpected.imp_left clear.isSome_manifest_iff.mpr)]
  | undecodableManifest place first unread survived =>
      rw [add_of_unread_manifest clear place first unread, survived, if_neg Bool.false_ne_true]
  | overflowingManifest place first unread overflows =>
      rw [add_of_unread_manifest clear place first unread, if_pos overflows]
  | undecodableData role unread survived =>
      simp only [Assembly.add, FileRole.ofPath?_eq_data_iff.mpr role]
      rw [addData_of_unread unread, if_neg survived]
  | overflowingData role overflows =>
      simp only [Assembly.add, FileRole.ofPath?_eq_data_iff.mpr role]
      rw [addData_of_unread overflows, if_pos rfl]
  | @unexpectedData value role read root scalar =>
      have flat : Assembly.isObject value = false :=
        Bool.eq_false_iff.mpr fun object => scalar (isObject_iff.mp object)
      simp [Assembly.add, FileRole.ofPath?_eq_data_iff.mpr role, Assembly.addData, read, root, flat]
  | conflict role read fits apart met =>
      simp only [Assembly.add, FileRole.ofPath?_eq_data_iff.mpr role]
      rw [addData_of_fits read fits]
      simp only [gather, met]

/-- A file adds its contributions to what files are gathered to. -/
theorem gather_append_singleton (before : List BundleFile) (file : BundleFile) :
    gather (before ++ [file]) = {
      manifest := (gather before).manifest.or (manifestOf? file)
      data := (overlayOf? file).elim (dataOf before) (join (dataOf before))
      plans := (gather before).plans ++ [file].filter (hasRole .plan)
      policies := (gather before).policies ++ [file].filter (hasRole .policy) } := by
  have manifests : (([file] : List BundleFile).filterMap manifestOf?).head? = manifestOf? file := by
    cases found : manifestOf? file <;> simp [found]
  have overlays : ∀ data : Value, ([file].filterMap overlayOf?).foldl join data =
      (overlayOf? file).elim data (join data) := by
    intro data
    cases found : overlayOf? file <;> simp [found]
  unfold gather dataOf
  rw [List.filterMap_append, List.filterMap_append, List.filter_append, List.filter_append,
    List.foldl_append, List.head?_append, manifests, overlays]

/-- A manifest that does not offend is taken as the one manifest. -/
theorem add_manifest_of_fits (clear : Clear before) (fits : ∀ error, ¬Offends before file error)
    (manifest : FileRole.ofPath? file.path = some .manifest) :
    (gather before).add file = .ok (gather (before ++ [file])) := by
  obtain ⟨first, place, found, read⟩ :=
    manifest_of_fits fits (FileRole.ofPath?_eq_manifest_iff.mp manifest)
  have expected := clear.expects_manifest place first
  have fresh := (not_or.mp expected).1
  have overlay : overlayOf? file = none := by simp [overlayOf?, hasRole, manifest]
  have known : manifestOf? file = some found := by simp [manifestOf?, hasRole, manifest, read]
  rw [gather_append_singleton, overlay, known, Option.not_isSome_iff_eq_none.mp fresh]
  simp only [Assembly.add, manifest, Assembly.addManifest, if_neg expected, read]
  simp [gather, hasRole, manifest]

/-- Data that does not offend is joined to the data before it, which remains settled. -/
theorem add_data_of_fits (settled : (dataOf before).Settled)
    (fits : ∀ error, ¬Offends before file error)
    (data : FileRole.ofPath? file.path = some .data) :
    (gather before).add file = .ok (gather (before ++ [file])) ∧
      (gather (before ++ [file])).data.Settled := by
  have role := FileRole.ofPath?_eq_data_iff.mp data
  obtain ⟨value, read, place⟩ := data_of_fits fits role
  have settled' := settled_of_decode read
  have joins := joins_mergeAt settled settled' (Path.directories file.path)
  have alone : manifestOf? file = none := by simp [manifestOf?, hasRole, data]
  have overlay : overlayOf? file = some (wrap (Path.directories file.path) value) := by
    simp [overlayOf?, hasRole, data, read, Except.toOption]
  rw [gather_append_singleton, alone, Option.or_none, overlay]
  cases met : ((dataOf before).mergeAt (Path.directories file.path) value).conflict with
  | some conflict =>
      have apart := (conflict_mergeAt_eq_none_iff settled settled' _).not.mp
        (by rw [met]; exact Option.some_ne_none _)
      exact absurd (.conflict role read place apart met) (fits _)
  | none =>
      have compatible := (conflict_mergeAt_eq_none_iff settled settled' _).mp met
      have joined := mergeAt_eq_join settled settled' compatible
      have whole := joins.settled met
      rw [joined] at whole
      refine ⟨?_, whole⟩
      simp only [Assembly.add, data]
      rw [addData_of_fits read place]
      simp only [gather, joined]
      simp [hasRole, data]

/-- A file that does not offend is taken, and the data remains settled. -/
theorem add_of_fits (clear : Clear before) (settled : (dataOf before).Settled)
    (fits : ∀ error, ¬Offends before file error) :
    (gather before).add file = .ok (gather (before ++ [file])) ∧
      (gather (before ++ [file])).data.Settled := by
  by_cases data : FileRole.ofPath? file.path = some .data
  · exact add_data_of_fits settled fits data
  · have overlay : overlayOf? file = none := by simp [overlayOf?, hasRole, data]
    constructor
    · by_cases manifest : FileRole.ofPath? file.path = some .manifest
      · exact add_manifest_of_fits clear fits manifest
      · have alone : manifestOf? file = none := by simp [manifestOf?, hasRole, manifest]
        rw [gather_append_singleton, alone, Option.or_none, overlay, add_plain manifest data]
        rfl
    · rw [gather_append_singleton, overlay]
      exact settled

end Step

/-! ## Taking several files -/

/-- **Files that fit together are taken as they are gathered.** -/
theorem foldlM_add_of_clear {files : List BundleFile} (clear : Clear files) :
    files.foldlM Assembly.add Assembly.empty = .ok (gather files) ∧ (dataOf files).Settled := by
  induction files using List.reverseRecOn with
  | nil => exact ⟨rfl, settled_nil⟩
  | append_singleton before file ih =>
      obtain ⟨clear, fits⟩ := clear_append_singleton_iff.mp clear
      obtain ⟨taken, settled⟩ := ih clear
      obtain ⟨added, settled'⟩ := add_of_fits clear settled fits
      rw [List.foldlM_append, taken]
      refine ⟨?_, settled'⟩
      change (gather before).add file >>= pure = _
      rw [bind_pure, added]

/-- **Taking files ends with the error of the first that offends.** -/
theorem foldlM_add_of_offence {files : List BundleFile} {error : LoadError}
    (first : FirstOffence files error) :
    files.foldlM Assembly.add Assembly.empty = .error error := by
  obtain ⟨before, file, after, rfl, clear, offends⟩ := first
  rw [List.foldlM_append, (foldlM_add_of_clear clear).1]
  change List.foldlM Assembly.add (gather before) (file :: after) = _
  rw [List.foldlM_cons, add_of_offends clear offends]
  rfl

end Bundle

end Rego
