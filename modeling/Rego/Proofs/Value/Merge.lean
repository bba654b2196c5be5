import Rego.Proofs.Value.Below
import Rego.Value.Merge

/-!
# A merge is a join

Merging settled trees gives the least tree that has the data of both: whatever has the data of both
has that of the merged tree, and a conflict means that nothing has the data of both (`Joins`). This
does not mention the order of the two or of their fields, so neither do the outcomes of several
merges. A merge at a path is the merge with the overlay wrapped into one object for each segment
(`joins_mergeAt`).
-/

namespace Rego

set_option autoImplicit false

namespace Value

/-- The tree that holds a value at a path and nothing else. -/
def wrap : List String → Value → Value
  | [], overlay => overlay
  | segment :: rest, overlay => .object [(.string segment, wrap rest overlay)]

/-- A merged tree is the least one with the data of both trees, and there is none with the data of
both after a conflict. -/
structure Joins (outcome : MergeOutcome) (base overlay : Value) : Prop where
  settled : outcome.conflict = none → outcome.value.Settled
  below_iff : outcome.conflict = none →
    ∀ upper, Below outcome.value upper ↔ Below base upper ∧ Below overlay upper
  apart : outcome.conflict ≠ none → ∀ upper, Below base upper → ¬Below overlay upper

/-- After a conflict it only remains that nothing has the data of both trees. -/
theorem Joins.of_conflict {outcome : MergeOutcome} {base overlay : Value} {conflict : String}
    (met : outcome.conflict = some conflict)
    (apart : ∀ upper, Below base upper → ¬Below overlay upper) : Joins outcome base overlay where
  settled done := by
    rw [met] at done
    cases done
  below_iff done := by
    rw [met] at done
    cases done
  apart _ := apart

/-- An object that stands in a place is settled if any value that stands there is. -/
theorem settled_of_place {fields : List (Value × Value)}
    (place : Value.object fields = .undefined ∨ Settled (.object fields)) :
    Settled (.object fields) :=
  place.resolve_left nofun

/-! ## One field -/

/-- The value that merging finds under a key, which is undefined when there is none. -/
def existing (key : Value) (fields : List (Value × Value)) : Value :=
  (Fields.get? key fields).getD .undefined

section Field

variable {current : List (Value × Value)} {key value : Value}

theorem existing_settled (settled : Settled (.object current)) (key : Value) :
    existing key current = .undefined ∨ Settled (existing key current) := by
  unfold existing
  cases found : Fields.get? key current with
  | none => exact .inl rfl
  | some old => exact .inr (settled.found found)

/-- What stands above all fields has, under any key, the data they have there. -/
theorem below_existing {others : List (Value × Value)} {other : Value}
    (below : FieldsBelow current others) (found : Fields.get? key others = some other) :
    Below (existing key current) other := by
  unfold existing
  cases known : Fields.get? key current with
  | none => exact .undefined other
  | some old =>
      obtain ⟨_, found', first⟩ := below.fieldBelow known
      rw [found] at found'
      cases found'
      exact first

/-- Setting a key to a join of its old value and another adds the data of the other. -/
theorem fieldsBelow_put_iff (key : Value) (ascending : Fields.Ascending current) {new : Value}
    (join : ∀ upper, Below new upper ↔ Below (existing key current) upper ∧ Below value upper)
    (others : List (Value × Value)) :
    FieldsBelow (Fields.put key new current) others ↔
      FieldsBelow current others ∧ FieldBelow key value others := by
  unfold existing at join
  cases found : Fields.get? key current with
  | none =>
      obtain ⟨front, back, rfl, _, _, set⟩ :=
        Fields.exists_put_of_get?_eq_none ascending found
      have same : FieldBelow key new others ↔ FieldBelow key value others := by
        refine exists_congr fun other => and_congr_right fun _ => ?_
        rw [join, found]
        exact and_iff_right (.undefined other)
      rw [set, fieldsBelow_iff, fieldsBelow_iff, List.forall_mem_append, List.forall_mem_append,
        List.forall_mem_cons, same]
      tauto
  | some old =>
      obtain ⟨front, stored, back, rfl, keys, set⟩ :=
        Fields.exists_put_of_get?_eq_some ascending found
      have both : FieldBelow stored new others ↔
          FieldBelow stored old others ∧ FieldBelow key value others := by
        rw [fieldBelow_congr keys value others]
        constructor
        · rintro ⟨other, known, below⟩
          rw [join, found] at below
          exact ⟨⟨other, known, below.1⟩, other, known, below.2⟩
        · rintro ⟨⟨other, known, first⟩, other', known', second⟩
          cases known.symm.trans known'
          refine ⟨other, known, (join other).mpr ⟨?_, second⟩⟩
          rw [found]
          exact first
      rw [set, fieldsBelow_iff, fieldsBelow_iff, List.forall_mem_append, List.forall_mem_append,
        List.forall_mem_cons, List.forall_mem_cons, both]
      tauto

theorem settled_put (settled : Settled (.object current)) {new : Value} (new_settled : Settled new)
    (key : Value) : Settled (.object (Fields.put key new current)) := by
  refine .object (Fields.ascending_put settled.ascending key new) fun field member => ?_
  rcases Fields.mem_put settled.ascending member with same | before
  · rw [same]
    exact new_settled
  · exact settled.field field before

theorem ascending_singleton (key value : Value) : Fields.Ascending [(key, value)] :=
  List.pairwise_singleton _ _

/-- Joining the values under one key joins an object with the object of that key alone. -/
theorem Joins.field (settled : Settled (.object current)) (key : Value) {outcome : MergeOutcome}
    (inner : Joins outcome (existing key current) value) :
    Joins ⟨.object (Fields.put key outcome.value current), outcome.conflict⟩
      (.object current) (.object [(key, value)]) where
  settled done := settled_put settled (inner.settled done) key
  below_iff done upper := by
    rw [below_object_iff (Fields.ascending_put settled.ascending _ _),
      below_object_iff settled.ascending, below_object_iff (ascending_singleton _ _)]
    have join := fieldsBelow_put_iff key settled.ascending (inner.below_iff done)
    constructor
    · rintro ⟨others, rfl, below⟩
      obtain ⟨first, second⟩ := (join others).mp below
      exact ⟨⟨others, rfl, first⟩, others, rfl, fieldsBelow_cons_iff.mpr ⟨second, .nil others⟩⟩
    · rintro ⟨⟨others, rfl, first⟩, _, ⟨⟩, second⟩
      exact ⟨others, rfl, (join others).mpr ⟨first, (fieldsBelow_cons_iff.mp second).1⟩⟩
  apart conflict upper first second := by
    obtain ⟨others, rfl, below⟩ := (below_object_iff settled.ascending).mp first
    obtain ⟨_, ⟨⟩, single⟩ := (below_object_iff (ascending_singleton _ _)).mp second
    obtain ⟨other, found, above⟩ := (fieldsBelow_cons_iff.mp single).1
    exact inner.apart conflict other (below_existing below found) above

end Field

/-! ## Whole trees -/

section Merge

variable {base overlay : Value}

theorem merge_undefined (overlay : Value) (path : String) :
    merge .undefined overlay path = ⟨overlay, none⟩ := by
  cases overlay <;> rfl

theorem merge_of_equals (defined : base ≠ .undefined) (same : base.equals overlay = true)
    (path : String) : merge base overlay path = ⟨base, none⟩ := by
  cases overlay <;> cases base <;> first | exact absurd rfl defined | simp [merge, same]

theorem merge_object {current incoming : List (Value × Value)}
    (different : ¬(Value.object current).equals (.object incoming) = true) (path : String) :
    merge (.object current) (.object incoming) path =
      ⟨.object (mergeFields current incoming path).1, (mergeFields current incoming path).2⟩ := by
  simp [merge, different]

theorem merge_of_scalar (defined : base ≠ .undefined) (different : ¬base.equals overlay = true)
    (scalar : base.kind ≠ .object ∨ overlay.kind ≠ .object) (path : String) :
    merge base overlay path = ⟨base, some path⟩ := by
  cases overlay <;> cases base <;>
    first
    | exact absurd rfl defined
    | exact scalar.elim (absurd rfl) (absurd rfl)
    | exact absurd (equals_refl _) different
    | simp [merge, different]

/-- Merging into the place of an undefined value, merging an equal tree, and merging where either
side is no object: all that a merge does without going into fields. -/
theorem joins_merge_flat (settled : Settled overlay)
    (place : base = .undefined ∨ Settled base)
    (flat : base.equals overlay = true ∨ base.kind ≠ .object ∨ overlay.kind ≠ .object)
    (path : String) : Joins (merge base overlay path) base overlay := by
  rcases place with rfl | settled'
  · rw [merge_undefined]
    refine ⟨fun _ => settled, fun _ upper => ?_, fun conflict => absurd rfl conflict⟩
    exact (and_iff_right (.undefined upper)).symm
  · have defined := settled'.defined
    by_cases same : base.equals overlay = true
    · rw [merge_of_equals defined same]
      refine ⟨fun _ => settled', fun _ upper => ?_, fun conflict => absurd rfl conflict⟩
      exact (and_iff_left_of_imp fun below => below.of_equals same).symm
    · have scalar := flat.resolve_left same
      rw [merge_of_scalar defined same scalar]
      refine .of_conflict rfl fun upper first second => same ?_
      by_cases object : base.kind = .object
      · have above := equals_of_below (scalar.resolve_left (not_not_intro object)) settled.defined
          second
        cases base with
        | object fields =>
            obtain ⟨others, rfl, _⟩ := (below_object_iff settled'.ascending).mp first
            exact absurd (kind_eq_of_equals above) (scalar.resolve_left (not_not_intro rfl))
        | _ => cases object
      · have above := equals_of_below object defined first
        by_cases object' : overlay.kind = .object
        · cases overlay with
          | object fields =>
              obtain ⟨others, rfl, _⟩ := (below_object_iff settled.ascending).mp second
              exact absurd (kind_eq_of_equals above) object
          | _ => cases object'
        · exact equals_trans above (equals_symm (equals_of_below object' settled.defined second))

theorem mergeFields_cons_of_done {current rest : List (Value × Value)} {key value : Value}
    {path : String}
    (done : (merge (existing key current) value (childPath path key)).conflict = none) :
    mergeFields current ((key, value) :: rest) path =
      mergeFields (Fields.put key
        (merge (existing key current) value (childPath path key)).value current) rest path := by
  unfold existing at done ⊢
  cases found : Fields.get? key current with
  | none => simp [mergeFields, found, merge_undefined]
  | some old =>
      rw [found, Option.getD_some] at done
      simp [mergeFields, found, done]

theorem mergeFields_cons_of_conflict {current rest : List (Value × Value)} {key value : Value}
    {path conflict : String}
    (met : (merge (existing key current) value (childPath path key)).conflict = some conflict) :
    mergeFields current ((key, value) :: rest) path =
      (Fields.put key (merge (existing key current) value (childPath path key)).value current,
        some conflict) := by
  unfold existing at met ⊢
  cases found : Fields.get? key current with
  | none =>
      rw [found, Option.getD_none, merge_undefined] at met
      cases met
  | some old =>
      rw [found, Option.getD_some] at met
      simp [mergeFields, found, met]

/-- Fields that are merged one after the other are merged together. -/
theorem joins_mergeFields {current incoming : List (Value × Value)}
    (settled : Settled (.object current)) (ascending : Fields.Ascending incoming)
    (step : ∀ field ∈ incoming, ∀ place : Value, place = .undefined ∨ Settled place →
      ∀ path, Joins (merge place field.2 path) place field.2) (path : String) :
    Joins ⟨.object (mergeFields current incoming path).1, (mergeFields current incoming path).2⟩
      (.object current) (.object incoming) := by
  induction incoming generalizing current with
  | nil =>
      refine ⟨fun _ => settled, fun _ upper => ?_, fun conflict => absurd rfl conflict⟩
      refine (and_iff_left_of_imp fun below => ?_).symm
      obtain ⟨others, rfl, _⟩ := (below_object_iff settled.ascending).mp below
      exact .object (.nil others)
  | cons field rest ih =>
      obtain ⟨key, value⟩ := field
      have one := Joins.field settled key
        (step (key, value) List.mem_cons_self _ (existing_settled settled key) (childPath path key))
      cases inner : (merge (existing key current) value (childPath path key)).conflict with
      | some conflict =>
          rw [mergeFields_cons_of_conflict inner]
          rw [inner] at one
          refine .of_conflict rfl fun upper first second =>
            one.apart (Option.some_ne_none _) upper first ?_
          obtain ⟨others, rfl, below⟩ := (below_object_iff ascending).mp second
          exact .object (fieldsBelow_cons_iff.mpr ⟨(fieldsBelow_cons_iff.mp below).1, .nil others⟩)
      | none =>
          rw [mergeFields_cons_of_done inner]
          rw [inner] at one
          have later := ih (one.settled rfl) (List.pairwise_cons.mp ascending).2
            fun next member => step next (List.mem_cons_of_mem _ member)
          have split : ∀ upper, Below (.object ((key, value) :: rest)) upper ↔
              Below (.object [(key, value)]) upper ∧ Below (.object rest) upper := by
            intro upper
            rw [below_object_iff ascending, below_object_iff (ascending_singleton _ _),
              below_object_iff (List.pairwise_cons.mp ascending).2]
            constructor
            · rintro ⟨others, rfl, below⟩
              obtain ⟨first, rest⟩ := fieldsBelow_cons_iff.mp below
              exact ⟨⟨others, rfl, fieldsBelow_cons_iff.mpr ⟨first, .nil others⟩⟩,
                others, rfl, rest⟩
            · rintro ⟨⟨others, rfl, first⟩, _, ⟨⟩, rest⟩
              exact ⟨others, rfl,
                fieldsBelow_cons_iff.mpr ⟨(fieldsBelow_cons_iff.mp first).1, rest⟩⟩
          refine ⟨later.settled, fun done upper => ?_, fun conflict upper first second => ?_⟩
          · rw [later.below_iff done, one.below_iff rfl, split, and_assoc]
          · obtain ⟨head, tail⟩ := (split upper).mp second
            exact later.apart conflict upper ((one.below_iff rfl upper).mpr ⟨first, head⟩) tail

/-- **Merging settled trees joins them.** -/
theorem joins_merge (settled : Settled overlay) (place : base = .undefined ∨ Settled base)
    (path : String) : Joins (merge base overlay path) base overlay := by
  induction settled generalizing base path with
  | scalar scalar defined =>
      exact joins_merge_flat (.scalar scalar defined) place (.inr (.inr scalar)) path
  | @object incoming ascending settled ih =>
      have whole := Settled.object ascending settled
      by_cases flat : base.equals (.object incoming) = true ∨ base.kind ≠ .object
      · exact joins_merge_flat whole place (flat.imp_right .inl) path
      · obtain ⟨different, object⟩ := not_or.mp flat
        cases base with
        | object current =>
            rw [merge_object different]
            exact joins_mergeFields (settled_of_place place) ascending
              (fun field member _ place path => ih field member place path) path
        | _ => cases not_not.mp object

end Merge

/-! ## Below a path -/

theorem mergeBelow_object (overlay : Value) (joined : String) (walked : List String)
    (segment : String) (rest : List String) (fields : List (Value × Value)) :
    mergeBelow overlay joined walked (segment :: rest) (.object fields) =
      ⟨.object (Fields.put (.string segment)
        (mergeBelow overlay joined (walked ++ [segment]) rest
          (existing (.string segment) fields)).value fields),
        (mergeBelow overlay joined (walked ++ [segment]) rest
          (existing (.string segment) fields)).conflict⟩ := rfl

theorem mergeBelow_undefined (overlay : Value) (joined : String) (walked : List String)
    (segment : String) (rest : List String) :
    mergeBelow overlay joined walked (segment :: rest) .undefined =
      mergeBelow overlay joined walked (segment :: rest) (.object []) := rfl

/-- Where nothing stands yet, an object without fields may as well stand. -/
theorem Joins.of_empty {outcome : MergeOutcome} {fields : List (Value × Value)}
    (ascending : Fields.Ascending fields) (joins : Joins outcome (.object []) (.object fields)) :
    Joins outcome .undefined (.object fields) := by
  have free : ∀ upper, Below (.object fields) upper → Below (.object []) upper := by
    intro upper below
    obtain ⟨others, rfl, _⟩ := (below_object_iff ascending).mp below
    exact .object (.nil others)
  refine ⟨joins.settled, fun done upper => ?_, fun conflict upper _ second => ?_⟩
  · rw [joins.below_iff done, and_iff_right (Below.undefined upper), and_iff_right_of_imp (free _)]
  · exact joins.apart conflict upper (free upper second) second

theorem joins_mergeBelow {overlay : Value} (settled : Settled overlay) (joined : String)
    (path walked : List String) {base : Value} (place : base = .undefined ∨ Settled base) :
    Joins (mergeBelow overlay joined walked path base) base (wrap path overlay) := by
  induction path generalizing walked base with
  | nil => exact joins_merge settled place joined
  | cons segment rest ih =>
      have single := ascending_singleton (.string segment) (wrap rest overlay)
      cases base with
      | undefined =>
          have inner := ih (walked ++ [segment]) (.inl rfl)
          exact (Joins.field settled_nil (.string segment) inner).of_empty single
      | object fields =>
          have whole := settled_of_place place
          exact Joins.field whole _ (ih (walked ++ [segment]) (existing_settled whole _))
      | _ =>
          refine .of_conflict rfl fun upper first second => ?_
          obtain ⟨others, rfl, _⟩ := (below_object_iff single).mp second
          cases first with
          | equal same => cases same

/-- **Merging at a path joins a tree with the overlay wrapped at the path.** -/
theorem joins_mergeAt {base overlay : Value} (settled : Settled base)
    (settled' : Settled overlay) (path : List String) :
    Joins (mergeAt base path overlay) base (wrap path overlay) :=
  joins_mergeBelow settled' _ path [] (.inr settled)

end Value

end Rego
