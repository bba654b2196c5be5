import Rego.Proofs.Value.Join

/-!
# Merges compute joins

A merge goes through the fields of the overlay one by one and changes the tree in place; a join is
defined for both trees at once. On compatible trees the two agree to the last detail
(`merge_eq_join`, `mergeAt_eq_join`), and on other trees a merge meets a conflict, since no tree
lies above both. So merging again what was merged before changes nothing, and several merges that
succeed do so in any order, with equal results (`mergeAt_joins`).
-/

namespace Rego

set_option autoImplicit false

namespace Value

/-! ## Whole trees -/

/-- Fields that merge to joins one by one merge to the join of the objects. -/
theorem mergeFields_eq_join {current incoming : List (Value × Value)}
    (ascending : Fields.Ascending current) (ascending' : Fields.Ascending incoming)
    (each : ∀ field ∈ incoming, ∀ path,
      merge (existing field.1 current) field.2 path =
        ⟨join (existing field.1 current) field.2, none⟩)
    (path : String) :
    (⟨.object (mergeFields current incoming path).1, (mergeFields current incoming path).2⟩ :
      MergeOutcome) = ⟨join (.object current) (.object incoming), none⟩ := by
  induction incoming generalizing current with
  | nil =>
      rw [join_nil ascending]
      rfl
  | cons field rest ih =>
      obtain ⟨key, value⟩ := field
      obtain ⟨least, later⟩ := List.pairwise_cons.mp ascending'
      have first := each (key, value) List.mem_cons_self (childPath path key)
      rw [mergeFields_cons_of_done (by rw [first]), first, join_cons ascending ascending']
      refine ih (Fields.ascending_put ascending _ _) later fun next member path => ?_
      -- The later keys are greater, so what they meet is still what stood there at first.
      have beyond : next.1.compare key ≠ .eq := by
        rw [Std.OrientedCmp.gt_of_lt (least next member)]
        decide
      rw [existing_put_of_ne beyond]
      exact each next (List.mem_cons_of_mem _ member) path

/-- What stands under a key is a place to merge into when it is compatible. -/
theorem place_existing {fields : List (Value × Value)} {key overlay : Value}
    (settled : Settled (.object fields))
    (compatible : ∀ old, Fields.get? key fields = some old → Compatible old overlay) :
    existing key fields = .undefined ∨
      Settled (existing key fields) ∧ Compatible (existing key fields) overlay := by
  cases found : Fields.get? key fields with
  | none => exact .inl (existing_of_get?_eq_none found)
  | some old =>
      rw [existing_of_get? found]
      exact .inr ⟨settled.found found, compatible old found⟩

/-- **Merging compatible trees gives their join.** -/
theorem merge_eq_join {base overlay : Value} (settled : Settled overlay)
    (place : base = .undefined ∨ Settled base ∧ Compatible base overlay) (path : String) :
    merge base overlay path = ⟨join base overlay, none⟩ := by
  induction settled generalizing base path with
  | @scalar overlay scalar defined =>
      rcases place with rfl | ⟨settled', compatible⟩
      · rw [merge_undefined, join_undefined_left]
      · cases compatible with
        | equal same =>
            rw [merge_of_equals settled'.defined same,
              join_of_not_object settled'.defined (.inr scalar)]
        | object => exact absurd rfl scalar
  | @object incoming ascending settled ih =>
      rcases place with rfl | ⟨settled', compatible⟩
      · rw [merge_undefined, join_undefined_left]
      · obtain ⟨current, rfl⟩ := compatible.exists_object
        -- The merge leaves equal objects alone, without going through their fields.
        by_cases same : (Value.object current).equals (.object incoming) = true
        · have below : Below (.object incoming) (.object current) := .equal (equals_symm same)
          have defined : Value.object current ≠ .undefined := nofun
          rw [merge_of_equals defined same,
            join_eq_self_of_below settled' (.object ascending settled) below]
        · rw [merge_object same]
          refine mergeFields_eq_join settled'.ascending ascending (fun field member path => ?_) path
          refine ih field member (place_existing settled' fun old found => ?_) path
          exact compatible.common found (Fields.get?_of_mem ascending member)

/-! ## At a path -/

theorem settled_wrap {overlay : Value} (settled : Settled overlay) (path : List String) :
    Settled (wrap path overlay) := by
  induction path with
  | nil => exact settled
  | cons segment rest ih =>
      refine .object (ascending_singleton _ _) fun field member => ?_
      rw [List.mem_singleton.mp member]
      exact ih

theorem mergeBelow_eq_join {overlay : Value} (settled : Settled overlay) (joined : String)
    (path walked : List String) {base : Value}
    (place : base = .undefined ∨ Settled base ∧ Compatible base (wrap path overlay)) :
    mergeBelow overlay joined walked path base = ⟨join base (wrap path overlay), none⟩ := by
  induction path generalizing walked base with
  | nil => exact merge_eq_join settled place joined
  | cons segment rest ih =>
      have single := ascending_singleton (.string segment) (wrap rest overlay)
      rcases place with rfl | ⟨settled', compatible⟩
      · rw [mergeBelow, ih (walked ++ [segment]) (.inl rfl), join_undefined_left,
          join_undefined_left, wrap]
      · obtain ⟨fields, rfl⟩ := compatible.exists_object
        have inner := ih (walked ++ [segment]) (place_existing settled' fun old found =>
          compatible.common found (Fields.get?_of_mem single List.mem_cons_self))
        rw [mergeBelow_object, inner, wrap, join_cons settled'.ascending single, join_nil]
        exact Fields.ascending_put settled'.ascending _ _

/-- Merging at a path a compatible overlay gives the join with the overlay wrapped at the path. -/
theorem mergeAt_eq_join {base overlay : Value} {path : List String} (settled : Settled base)
    (settled' : Settled overlay) (compatible : Compatible base (wrap path overlay)) :
    mergeAt base path overlay = ⟨join base (wrap path overlay), none⟩ :=
  mergeBelow_eq_join settled' _ path [] (.inr ⟨settled, compatible⟩)

/-- **A merge at a path meets no conflict exactly when its trees are compatible.** -/
theorem conflict_mergeAt_eq_none_iff {base overlay : Value} (settled : Settled base)
    (settled' : Settled overlay) (path : List String) :
    (mergeAt base path overlay).conflict = none ↔ Compatible base (wrap path overlay) := by
  constructor
  · intro done
    have joins := joins_mergeAt settled settled' path
    obtain ⟨first, second⟩ := (joins.below_iff done _).mp (.refl _)
    exact compatible_of_below settled (settled_wrap settled' path) first second
  · intro compatible
    rw [mergeAt_eq_join settled settled' compatible]

/-! ## Several merges -/

/-- The tree with overlays merged in at their paths one after the other, if there was no
conflict. -/
def patchAll (base : Value) (patches : List (List String × Value)) : Except ValueError Value :=
  patches.foldlM (fun tree patch => tree.patch patch.1 patch.2) base

/-- The outcome of several merges is the least tree with the data of all of them, or there is no
such tree. -/
inductive Patched (base : Value) (patches : List (List String × Value)) :
    Except ValueError Value → Prop where
  | ok {whole : Value} (settled : Settled whole)
      (below_iff : ∀ upper, Below whole upper ↔
        Below base upper ∧ ∀ patch ∈ patches, Below (wrap patch.1 patch.2) upper) :
      Patched base patches (.ok whole)
  | error {error : ValueError}
      (apart : ∀ upper, Below base upper →
        ¬∀ patch ∈ patches, Below (wrap patch.1 patch.2) upper) :
      Patched base patches (.error error)

theorem patched_patchAll {patches : List (List String × Value)}
    (settled : ∀ patch ∈ patches, Settled patch.2) {base : Value} (settled' : Settled base) :
    Patched base patches (patchAll base patches) := by
  induction patches generalizing base with
  | nil => exact .ok settled' fun upper => (and_iff_left nofun).symm
  | cons patch rest ih =>
      obtain ⟨first, later⟩ := List.forall_mem_cons.mp settled
      have joins := joins_mergeAt settled' first patch.1
      unfold patchAll
      rw [List.foldlM_cons, Value.patch]
      cases met : (base.mergeAt patch.1 patch.2).conflict with
      | some conflict =>
          refine .error fun upper below all => ?_
          exact joins.apart (by rw [met]; exact nofun) upper below (all patch List.mem_cons_self)
      | none =>
          -- The first merge gives the least tree above two, the others the least above that.
          change Patched base (patch :: rest) (patchAll (base.mergeAt patch.1 patch.2).value rest)
          have below_iff := joins.below_iff met
          have tail := ih later (joins.settled met)
          generalize patchAll (base.mergeAt patch.1 patch.2).value rest = outcome at tail ⊢
          cases tail with
          | ok settled' below_iff' =>
              refine .ok settled' fun upper => ?_
              rw [below_iff', below_iff, List.forall_mem_cons, and_assoc]
          | error apart =>
              refine .error fun upper below all => ?_
              obtain ⟨here, there⟩ := List.forall_mem_cons.mp all
              exact apart upper ((below_iff upper).mpr ⟨below, here⟩) there

/-- **Merges that succeed do so in any order, with equal results.** -/
theorem patchAll_perm {base whole : Value} {patches others : List (List String × Value)}
    (settled : Settled base) (settled' : ∀ patch ∈ patches, Settled patch.2)
    (reordered : patches.Perm others) (done : patchAll base patches = .ok whole) :
    ∃ whole', patchAll base others = .ok whole' ∧ whole.equals whole' = true := by
  have one := patched_patchAll settled' settled
  have two := patched_patchAll
    (fun patch member => settled' patch (reordered.mem_iff.mpr member)) settled
  rw [done] at one
  cases one with
  | ok settled below_iff =>
      cases other : patchAll base others with
      | error error =>
          rw [other] at two
          cases two with
          | error apart =>
              obtain ⟨below, all⟩ := (below_iff whole).mp (.refl _)
              exact absurd (fun patch member => all patch (reordered.mem_iff.mpr member))
                (apart whole below)
      | ok whole' =>
          rw [other] at two
          cases two with
          | ok settled' below_iff' =>
              have same : ∀ upper, Below whole upper ↔ Below whole' upper := by
                intro upper
                rw [below_iff, below_iff']
                simp only [reordered.mem_iff]
              refine ⟨whole', rfl, settled.equals_of_below settled' ?_ ?_⟩
              · exact (same whole').mpr (.refl _)
              · exact (same whole).mp (.refl _)

/-- **A merge computes the join of two trees.** On trees without undefined parts, a merge at a path
succeeds exactly when the tree and the overlay wrapped at the path are compatible; the tree it
leaves is then their join, which another merge of the same overlay does not change. The join of
objects has the keys of both, joined under common keys, and that of equal trees is either of them.
Several merges that succeed do so in any order, with equal results. -/
theorem mergeAt_joins :
    (∀ (base overlay : Value) (path : List String), base.Settled → overlay.Settled →
      ((mergeAt base path overlay).conflict = none ↔ Compatible base (wrap path overlay)) ∧
      (Compatible base (wrap path overlay) →
        mergeAt base path overlay = ⟨join base (wrap path overlay), none⟩ ∧
        mergeAt (join base (wrap path overlay)) path overlay =
          ⟨join base (wrap path overlay), none⟩)) ∧
    (∀ fields others : List (Value × Value), Fields.Ascending fields → Fields.Ascending others →
      ∃ joined, join (.object fields) (.object others) = .object joined ∧
        Fields.Ascending joined ∧ ∀ key, Fields.get? key joined =
          joinFound (Fields.get? key fields) (Fields.get? key others)) ∧
    (∀ left right : Value, left.Settled → right.Settled → left.equals right = true →
      join left right = left) ∧
    ∀ (base whole : Value) (patches others : List (List String × Value)), base.Settled →
      (∀ patch ∈ patches, patch.2.Settled) → patches.Perm others →
      patchAll base patches = .ok whole →
      ∃ whole', patchAll base others = .ok whole' ∧ whole.equals whole' = true := by
  refine ⟨?_, fun fields others => exists_join_object, ?_, fun base whole patches others =>
    patchAll_perm⟩
  · intro base overlay path settled settled'
    refine ⟨conflict_mergeAt_eq_none_iff settled settled' path, fun compatible => ?_⟩
    have joined := mergeAt_eq_join settled settled' compatible
    have joins := joins_mergeAt settled settled' path
    rw [joined] at joins
    have settled'' := joins.settled rfl
    obtain ⟨_, below⟩ := (joins.below_iff rfl _).mp (.refl _)
    have wrapped := settled_wrap settled' path
    have again := mergeAt_eq_join settled'' settled'
      (compatible_of_below settled'' wrapped (.refl _) below)
    rw [join_eq_self_of_below settled'' wrapped below] at again
    exact ⟨joined, again⟩
  · intro left right settled settled' same
    exact join_eq_self_of_below settled settled' (.equal (equals_symm same))

/-- Two leaves below one key, merged together, joined, and merged in both orders; and two spellings
of one number. -/
theorem mergeAt_joins_siblings :
    mergeAt (wrap ["a", "b"] (.bool true)) ["a"] (wrap ["c"] .null) =
      ⟨join (wrap ["a", "b"] (.bool true)) (wrap ["a", "c"] .null), none⟩ ∧
    (∃ joined, join (wrap ["b"] (.bool true)) (wrap ["c"] .null) = .object joined ∧
      Fields.Ascending joined ∧ ∀ key, Fields.get? key joined =
        joinFound (Fields.get? key [(.string "b", .bool true)])
          (Fields.get? key [(.string "c", .null)])) ∧
    join (.ofInt 1) (.number (.float (.ofBits 0x3FF0000000000000))) = .ofInt 1 ∧
    ∃ whole, patchAll (.object []) [(["a", "c"], .null), (["a", "b"], .bool true)] = .ok whole ∧
      (wrap ["a"] (.object [(.string "b", .bool true), (.string "c", .null)])).equals whole =
        true := by
  have leaf : Settled (.bool true) := .scalar (by decide) (by simp)
  have leaf' : Settled .null := .scalar (by decide) (by simp)
  obtain ⟨merges, fields, values, orders⟩ := mergeAt_joins
  refine ⟨?_, ?_, ?_, ?_⟩
  · obtain ⟨succeeds, joins⟩ :=
      merges _ _ ["a"] (settled_wrap leaf ["a", "b"]) (settled_wrap leaf' ["c"])
    exact (joins (succeeds.mp rfl)).1
  · exact fields _ _ (ascending_singleton _ _) (ascending_singleton _ _)
  · exact values _ _ (.scalar (by decide) (by simp [ofInt])) (.scalar (by decide) (by simp))
      (by decide +kernel)
  · refine orders (.object []) _ [(["a", "b"], .bool true), (["a", "c"], .null)] _ settled_nil ?_
      (.swap _ _ _) rfl
    exact List.forall_mem_cons.mpr ⟨leaf, List.forall_mem_singleton.mpr leaf'⟩

end Value

end Rego
