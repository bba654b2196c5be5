import Rego.Proofs.Value.Decoding
import Rego.Proofs.Value.Merge
import Rego.Bundle.Loading

/-!
# What files put together

Each file contributes by its role: a manifest, an overlay for the data tree, or itself as a plan or
policy. An assembly that took files has exactly their contributions, its data being the least tree
with the data of all overlays (`Took`). Files are refused only when one of them is unacceptable on
its own, when there is more than one manifest, or when no tree has the data of all overlays
(`Refused`). Both are proved for one file and composed along the fold (`took_or_refused`).
-/

namespace Rego

set_option autoImplicit false

namespace Bundle

open Value

/-! ## Contributions of one file -/

/-- Whether a file has a role. -/
def hasRole (role : FileRole) (file : BundleFile) : Bool :=
  decide (FileRole.ofPath? file.path = some role)

/-- The manifest of a manifest file. -/
def manifestOf? (file : BundleFile) : Option Manifest :=
  if hasRole .manifest file then Manifest.decode? file.bytes else none

/-- The value of a data file at the directory of the file. -/
def overlayOf? (file : BundleFile) : Option Value :=
  if hasRole .data file then
    (Value.decode file.bytes).toOption.map (wrap (Path.directories file.path))
  else none

/-- A file that fits into a bundle as far as it alone can tell. -/
def Acceptable (file : BundleFile) : Prop :=
  match FileRole.ofPath? file.path with
  | some .manifest => file.path = ".manifest" ∧ Manifest.decode? file.bytes ≠ none
  | some .data => ∃ value, Value.decode file.bytes = .ok value ∧
      (Path.directories file.path = [] → Assembly.isObject value = true)
  | _ => True

/-! ## Contributions of several files -/

/-- An assembly has what it had before and the contributions of files. -/
structure Took (before : Assembly) (files : List BundleFile) (after : Assembly) : Prop where
  acceptable : ∀ file ∈ files, Acceptable file
  manifest : after.manifest.toList = before.manifest.toList ++ files.filterMap manifestOf?
  plans : after.plans = before.plans ++ files.filter (hasRole .plan)
  policies : after.policies = before.policies ++ files.filter (hasRole .policy)
  settled : after.data.Settled
  below_iff : ∀ upper, Below after.data upper ↔
    Below before.data upper ∧ ∀ overlay ∈ files.filterMap overlayOf?, Below overlay upper

/-- Files do not fit together with what there was before. -/
inductive Refused (before : Assembly) (files : List BundleFile) : Prop where
  | file (file : BundleFile) (member : file ∈ files) (unacceptable : ¬Acceptable file)
  | manifest (several : 1 < (before.manifest.toList ++ files.filterMap manifestOf?).length)
  | data (apart : ∀ upper, Below before.data upper →
      ¬∀ overlay ∈ files.filterMap overlayOf?, Below overlay upper)

theorem Took.nil {assembly : Assembly} (settled : assembly.data.Settled) :
    Took assembly [] assembly where
  acceptable := nofun
  manifest := (List.append_nil _).symm
  plans := (List.append_nil _).symm
  policies := (List.append_nil _).symm
  settled := settled
  below_iff _ := (and_iff_left nofun).symm

theorem Took.append {first second third : Assembly} {files others : List BundleFile}
    (one : Took first files second) (two : Took second others third) :
    Took first (files ++ others) third where
  acceptable := List.forall_mem_append.mpr ⟨one.acceptable, two.acceptable⟩
  manifest := by
    rw [two.manifest, one.manifest, List.filterMap_append, List.append_assoc]
  plans := by rw [two.plans, one.plans, List.filter_append, List.append_assoc]
  policies := by rw [two.policies, one.policies, List.filter_append, List.append_assoc]
  settled := two.settled
  below_iff upper := by
    rw [two.below_iff, one.below_iff, List.filterMap_append, List.forall_mem_append, and_assoc]

theorem Took.refused {first second : Assembly} {files others : List BundleFile}
    (one : Took first files second) (two : Refused second others) :
    Refused first (files ++ others) := by
  cases two with
  | file file member unacceptable =>
      exact .file file (List.mem_append_right _ member) unacceptable
  | manifest several =>
      rw [one.manifest] at several
      exact .manifest (by rw [List.filterMap_append, ← List.append_assoc]; exact several)
  | data apart =>
      refine .data fun upper below all => ?_
      rw [List.filterMap_append, List.forall_mem_append] at all
      exact apart upper ((one.below_iff upper).mpr ⟨below, all.1⟩) all.2

theorem Refused.append {before : Assembly} {files : List BundleFile}
    (refused : Refused before files) (others : List BundleFile) :
    Refused before (files ++ others) := by
  cases refused with
  | file file member unacceptable =>
      exact .file file (List.mem_append_left _ member) unacceptable
  | manifest several =>
      refine .manifest (Nat.lt_of_lt_of_le several ?_)
      simp only [List.filterMap_append, List.length_append]
      omega
  | data apart =>
      refine .data fun upper below all => apart upper below ?_
      rw [List.filterMap_append, List.forall_mem_append] at all
      exact all.1

/-- What took files had no reason to refuse them. -/
theorem Took.not_refused {before after : Assembly} {files : List BundleFile}
    (took : Took before files after) : ¬Refused before files := by
  intro refused
  cases refused with
  | file file member unacceptable => exact unacceptable (took.acceptable file member)
  | manifest several =>
      rw [← took.manifest] at several
      cases manifest : after.manifest <;> simp [manifest] at several
  | data apart =>
      obtain ⟨below, all⟩ := (took.below_iff after.data).mp (.refl _)
      exact apart _ below all

/-! ## The order of files -/

theorem Refused.perm {before : Assembly} {files others : List BundleFile}
    (reordered : files.Perm others) (refused : Refused before files) :
    Refused before others := by
  cases refused with
  | file file member unacceptable => exact .file file (reordered.mem_iff.mp member) unacceptable
  | manifest several =>
      rw [((reordered.filterMap manifestOf?).append_left _).length_eq] at several
      exact .manifest several
  | data apart =>
      refine .data fun upper below all => apart upper below fun overlay member => ?_
      exact all overlay ((reordered.filterMap overlayOf?).mem_iff.mp member)

/-! ## Taking one file -/

/-- Files were taken, or they are refused. -/
inductive Attempt (before : Assembly) (files : List BundleFile) :
    Except LoadError Assembly → Prop where
  | ok {after : Assembly} (took : Took before files after) : Attempt before files (.ok after)
  | error {error : LoadError} (refused : Refused before files) :
      Attempt before files (.error error)

section Step

variable {assembly : Assembly} {file : BundleFile}

/-- A plan, a policy, or a file that does not belong into a bundle. -/
theorem took_plain (settled : assembly.data.Settled)
    (manifest : FileRole.ofPath? file.path ≠ some .manifest)
    (data : FileRole.ofPath? file.path ≠ some .data) :
    Took assembly [file] { assembly with
      plans := assembly.plans ++ [file].filter (hasRole .plan)
      policies := assembly.policies ++ [file].filter (hasRole .policy) } where
  acceptable := by
    refine List.forall_mem_singleton.mpr ?_
    unfold Acceptable
    split
    · exact absurd ‹_› manifest
    · exact absurd ‹_› data
    · trivial
  manifest := by simp [manifestOf?, hasRole, manifest]
  plans := rfl
  policies := rfl
  settled := settled
  below_iff _ := by simp [overlayOf?, hasRole, data]

theorem attempt_addManifest (settled : assembly.data.Settled)
    (role : FileRole.ofPath? file.path = some .manifest) :
    Attempt assembly [file] (assembly.addManifest file) := by
  have acceptable : Acceptable file ↔
      file.path = ".manifest" ∧ Manifest.decode? file.bytes ≠ none := by
    unfold Acceptable
    rw [role]
  unfold Assembly.addManifest
  split
  · next bad =>
      by_cases good : Acceptable file
      · refine .error (.manifest ?_)
        obtain ⟨place, decodes⟩ := acceptable.mp good
        obtain ⟨first, known⟩ :=
          Option.isSome_iff_exists.mp (bad.resolve_right (not_not_intro place))
        obtain ⟨second, read⟩ := Option.ne_none_iff_exists'.mp decodes
        simp [known, manifestOf?, hasRole, role, read]
      · exact .error (.file file List.mem_cons_self good)
  · next good =>
      obtain ⟨fresh, place⟩ := not_or.mp good
      cases read : Manifest.decode? file.bytes with
      | none =>
          refine .error (.file file List.mem_cons_self fun fits => ?_)
          exact (acceptable.mp fits).2 read
      | some manifest =>
          refine .ok ⟨?_, ?_, ?_, ?_, settled, ?_⟩
          · refine List.forall_mem_singleton.mpr (acceptable.mpr ⟨not_not.mp place, ?_⟩)
            rw [read]
            exact nofun
          · simp [Option.not_isSome_iff_eq_none.mp fresh, manifestOf?, hasRole, role, read]
          · simp [hasRole, role]
          · simp [hasRole, role]
          · simp [overlayOf?, hasRole, role]

/-- Data that is not decoded is an error of its file, unless decoding it ends the program. -/
theorem addData_of_unread {error : ValueError} (unread : Value.decode file.bytes = .error error) :
    assembly.addData file =
      .error (if error = .shiftOverflow then .shiftOverflow else .undecodableData file.path) := by
  unfold Assembly.addData
  rw [unread]
  cases error <;> rfl

theorem attempt_addData (settled : assembly.data.Settled)
    (role : FileRole.ofPath? file.path = some .data) :
    Attempt assembly [file] (assembly.addData file) := by
  have acceptable : Acceptable file ↔ ∃ value, Value.decode file.bytes = .ok value ∧
      (Path.directories file.path = [] → Assembly.isObject value = true) := by
    unfold Acceptable
    rw [role]
  cases read : Value.decode file.bytes with
  | error error =>
      rw [addData_of_unread read]
      refine .error (.file file List.mem_cons_self fun fits => ?_)
      obtain ⟨value, other, _⟩ := acceptable.mp fits
      rw [read] at other
      cases other
  | ok value =>
      unfold Assembly.addData
      rw [read]
      have overlay : [file].filterMap overlayOf? = [wrap (Path.directories file.path) value] := by
        simp [overlayOf?, hasRole, role, read, Except.toOption]
      by_cases misfit : (Path.directories file.path).isEmpty && !Assembly.isObject value
      · simp only [misfit, if_true]
        refine .error (.file file List.mem_cons_self fun fits => ?_)
        obtain ⟨other, same, object⟩ := acceptable.mp fits
        cases read.symm.trans same
        simp only [Bool.and_eq_true, List.isEmpty_iff, Bool.not_eq_true'] at misfit
        rw [object misfit.1] at misfit
        exact absurd misfit.2 nofun
      · have joins := joins_mergeAt settled (settled_of_decode read) (Path.directories file.path)
        simp only [misfit]
        cases conflict : (assembly.data.mergeAt (Path.directories file.path) value).conflict with
        | some path =>
            refine .error (.data fun upper below all => ?_)
            rw [overlay, List.forall_mem_singleton] at all
            exact joins.apart (by rw [conflict]; exact nofun) upper below all
        | none =>
            refine .ok ⟨?_, ?_, ?_, ?_, joins.settled conflict, ?_⟩
            · refine List.forall_mem_singleton.mpr (acceptable.mpr ⟨value, read, fun here => ?_⟩)
              simpa [here] using misfit
            · simp [manifestOf?, hasRole, role]
            · simp [hasRole, role]
            · simp [hasRole, role]
            · intro upper
              rw [overlay, List.forall_mem_singleton]
              exact joins.below_iff conflict upper

theorem add_plain (manifest : FileRole.ofPath? file.path ≠ some .manifest)
    (data : FileRole.ofPath? file.path ≠ some .data) :
    assembly.add file = .ok { assembly with
      plans := assembly.plans ++ [file].filter (hasRole .plan)
      policies := assembly.policies ++ [file].filter (hasRole .policy) } := by
  unfold Assembly.add
  split
  · exact absurd ‹_› manifest
  · exact absurd ‹_› data
  · next role => simp [hasRole, role]
  · next role => simp [hasRole, role]
  · next role => simp [hasRole, role]

theorem attempt_add (settled : assembly.data.Settled) (file : BundleFile) :
    Attempt assembly [file] (assembly.add file) := by
  by_cases manifest : FileRole.ofPath? file.path = some .manifest
  · have step : assembly.add file = assembly.addManifest file := by
      simp only [Assembly.add, manifest]
    rw [step]
    exact attempt_addManifest settled manifest
  · by_cases data : FileRole.ofPath? file.path = some .data
    · have step : assembly.add file = assembly.addData file := by
        simp only [Assembly.add, data]
      rw [step]
      exact attempt_addData settled data
    · rw [add_plain manifest data]
      exact .ok (took_plain settled manifest data)

end Step

/-! ## Taking several files -/

/-- **Files are taken with all they contribute, or refused for a reason that is in them.** -/
theorem took_or_refused (files : List BundleFile) {assembly : Assembly}
    (settled : assembly.data.Settled) :
    Attempt assembly files (files.foldlM Assembly.add assembly) := by
  induction files generalizing assembly with
  | nil => exact .ok (.nil settled)
  | cons file rest ih =>
      rw [List.foldlM_cons]
      have step := attempt_add settled file
      cases added : assembly.add file with
      | error error =>
          rw [added] at step
          cases step with
          | error refused => exact .error (refused.append rest)
      | ok next =>
          rw [added] at step
          cases step with
          | ok took =>
              change Attempt assembly (file :: rest) (rest.foldlM Assembly.add next)
              have later := ih took.settled
              cases whole : rest.foldlM Assembly.add next with
              | error error =>
                  rw [whole] at later
                  cases later with
                  | error refused => exact .error (took.refused refused)
              | ok after =>
                  rw [whole] at later
                  cases later with
                  | ok others => exact .ok (took.append others)

end Bundle

end Rego
