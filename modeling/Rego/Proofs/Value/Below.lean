import Rego.Proofs.Value.Fields

/-!
# Values with part of the data of others

A value lies below another when the other has all its data: where the lower value is undefined the
upper one is free, where both are objects every key below stands above as well, and elsewhere the
two are equal (`Below`). Settled values, whose objects ascend and hold no undefined fields, are
ordered by this up to equality (`Settled.equals_of_below`).
-/

namespace Rego

set_option autoImplicit false

namespace Value

mutual

/-- A value has all the data of another. -/
inductive Below : Value → Value → Prop where
  | undefined (upper : Value) : Below .undefined upper
  | equal {lower upper : Value} (same : lower.equals upper = true) : Below lower upper
  | object {fields others : List (Value × Value)} (below : FieldsBelow fields others) :
      Below (.object fields) (.object others)

/-- Fields have values below those of their keys among others. -/
inductive FieldsBelow : List (Value × Value) → List (Value × Value) → Prop where
  | nil (others : List (Value × Value)) : FieldsBelow [] others
  | cons {key value other : Value} {rest others : List (Value × Value)}
      (found : Fields.get? key others = some other) (first : Below value other)
      (later : FieldsBelow rest others) : FieldsBelow ((key, value) :: rest) others

end

theorem Below.refl (value : Value) : Below value value := .equal (equals_refl value)

/-- A value lies below the value of its key among others. -/
def FieldBelow (key value : Value) (others : List (Value × Value)) : Prop :=
  ∃ other, Fields.get? key others = some other ∧ Below value other

theorem fieldsBelow_cons_iff {key value : Value} {rest others : List (Value × Value)} :
    FieldsBelow ((key, value) :: rest) others ↔
      FieldBelow key value others ∧ FieldsBelow rest others := by
  constructor
  · intro below
    cases below with
    | cons found first later => exact ⟨⟨_, found, first⟩, later⟩
  · rintro ⟨⟨_, found, first⟩, later⟩
    exact .cons found first later

theorem fieldsBelow_iff {fields others : List (Value × Value)} :
    FieldsBelow fields others ↔ ∀ field ∈ fields, FieldBelow field.1 field.2 others := by
  induction fields with
  | nil => exact ⟨fun _ _ member => absurd member List.not_mem_nil, fun _ => .nil others⟩
  | cons field rest ih =>
      obtain ⟨key, value⟩ := field
      rw [fieldsBelow_cons_iff, List.forall_mem_cons, ih]

theorem fieldBelow_congr {key other : Value} (same : key.compare other = .eq) (value : Value)
    (others : List (Value × Value)) :
    FieldBelow key value others ↔ FieldBelow other value others := by
  unfold FieldBelow
  rw [Fields.get?_congr same]

/-! ## Equal values have the same data -/

mutual

theorem Below.of_equals : ∀ {lower upper : Value}, Below lower upper →
    ∀ {other : Value}, lower.equals other = true → Below other upper
  | _, upper, .undefined _, other, same => by
      cases other <;> first | exact .undefined upper | cases same
  | _, _, .equal above, _, same => .equal (equals_trans (equals_symm same) above)
  | _, _, .object below, other, same => by
      cases other with
      | object others => exact .object (below.of_equalFields same)
      | _ => cases same

theorem FieldsBelow.of_equalFields : ∀ {fields uppers : List (Value × Value)},
    FieldsBelow fields uppers →
    ∀ {others : List (Value × Value)}, equalFields fields others = true →
      FieldsBelow others uppers
  | _, uppers, .nil _, others, same => by
      cases others with
      | nil => exact .nil uppers
      | cons _ _ => cases same
  | _, uppers, .cons found first later, others, same => by
      cases others with
      | nil => cases same
      | cons other others =>
          obtain ⟨otherKey, otherValue⟩ := other
          simp only [equalFields, Bool.and_eq_true] at same
          obtain ⟨⟨keys, values⟩, rests⟩ := same
          refine .cons ?_ (first.of_equals values) (later.of_equalFields rests)
          rw [← Fields.get?_congr (equals_iff.mp keys)]
          exact found

end

/-! ## Data of data -/

/-- Where fields lie below others, each key finds something below what it finds among the others. -/
theorem FieldsBelow.fieldBelow {fields others : List (Value × Value)}
    (below : FieldsBelow fields others) {key value : Value}
    (found : Fields.get? key fields = some value) : FieldBelow key value others := by
  obtain ⟨stored, member, same⟩ := Fields.exists_mem_of_get? found
  exact (fieldBelow_congr same _ _).mpr (fieldsBelow_iff.mp below (stored, value) member)

mutual

theorem Below.trans : ∀ {lower middle upper : Value}, Below lower middle → Below middle upper →
    Below lower upper
  | _, _, upper, .undefined _, _ => .undefined upper
  | _, _, _, .equal same, later => later.of_equals (equals_symm same)
  | _, _, upper, .object below, later => by
      cases later with
      | object below' => exact .object (below.trans fun _ _ => below'.fieldBelow)
      | equal same =>
          cases upper with
          | object uppers =>
              refine .object (below.trans fun key other found => ?_)
              obtain ⟨upper, found', equal⟩ := Fields.exists_get?_of_equalFields same found
              exact ⟨upper, found', .equal equal⟩
          | _ => cases same

theorem FieldsBelow.trans : ∀ {fields others uppers : List (Value × Value)},
    FieldsBelow fields others →
    (∀ key other, Fields.get? key others = some other → FieldBelow key other uppers) →
    FieldsBelow fields uppers
  | _, _, uppers, .nil _, _ => .nil uppers
  | _, _, _, .cons found first later, above => by
      obtain ⟨upper, found', below⟩ := above _ _ found
      exact .cons found' (first.trans below) (later.trans above)

end

/-- What lies above ascending fields is an object that has them. -/
theorem below_object_iff {fields : List (Value × Value)} (ascending : Fields.Ascending fields)
    {upper : Value} :
    Below (.object fields) upper ↔
      ∃ others, upper = .object others ∧ FieldsBelow fields others := by
  constructor
  · intro below
    cases below with
    | object below => exact ⟨_, rfl, below⟩
    | equal same =>
        cases upper with
        | object others =>
            refine ⟨others, rfl, fieldsBelow_iff.mpr fun field member => ?_⟩
            obtain ⟨other, found, equal⟩ :=
              Fields.exists_get?_of_equalFields same (Fields.get?_of_mem ascending member)
            exact ⟨other, found, .equal equal⟩
        | _ => cases same
  · rintro ⟨others, rfl, below⟩
    exact .object below

/-- Above a value that is neither undefined nor an object stand its equals. -/
theorem equals_of_below {lower upper : Value} (scalar : lower.kind ≠ .object)
    (defined : lower ≠ .undefined) (below : Below lower upper) : lower.equals upper = true := by
  cases below with
  | undefined => exact absurd rfl defined
  | equal same => exact same
  | object _ => exact absurd rfl scalar

/-! ## Settled values -/

/-- Through all its objects a value ascends and is nowhere undefined. -/
inductive Settled : Value → Prop where
  | scalar {value : Value} (scalar : value.kind ≠ .object) (defined : value ≠ .undefined) :
      Settled value
  | object {fields : List (Value × Value)} (ascending : Fields.Ascending fields)
      (settled : ∀ field ∈ fields, Settled field.2) : Settled (.object fields)

theorem settled_nil : Settled (.object []) := .object .nil nofun

theorem Settled.defined {value : Value} (settled : Settled value) : value ≠ .undefined := by
  cases settled with
  | scalar _ defined => exact defined
  | object => exact nofun

theorem Settled.ascending {fields : List (Value × Value)} (settled : Settled (.object fields)) :
    Fields.Ascending fields := by
  cases settled with
  | scalar scalar => exact absurd rfl scalar
  | object ascending => exact ascending

theorem Settled.field {fields : List (Value × Value)} (settled : Settled (.object fields)) :
    ∀ field ∈ fields, Settled field.2 := by
  cases settled with
  | scalar scalar => exact absurd rfl scalar
  | object _ fields => exact fields

/-- What is found in a settled object is settled. -/
theorem Settled.found {fields : List (Value × Value)} (settled : Settled (.object fields))
    {key value : Value} (found : Fields.get? key fields = some value) : Settled value := by
  obtain ⟨stored, member, _⟩ := Fields.exists_mem_of_get? found
  exact settled.field (stored, value) member

/-- A field before all others is not below any of them. -/
theorem not_fieldBelow_of_lt {key value : Value} {other : Value × Value}
    {others : List (Value × Value)} (ascending : Fields.Ascending (other :: others))
    (before : key.compare other.1 = .lt) : ¬FieldBelow key value (other :: others) := by
  rintro ⟨_, found, _⟩
  rw [Fields.get?_eq_none_of_lt ascending before] at found
  cases found

/-- A field with the first key among others lies below the first of them. -/
theorem FieldBelow.first {key value : Value} {other : Value × Value}
    {others : List (Value × Value)} (below : FieldBelow key value (other :: others))
    (ascending : Fields.Ascending (other :: others)) (same : key.compare other.1 = .eq) :
    Below value other.2 := by
  obtain ⟨_, found, below⟩ := (fieldBelow_congr same _ _).mp below
  rw [Fields.get?_of_mem ascending List.mem_cons_self] at found
  cases found
  exact below

/-- A field beyond the first of others lies below one of the rest. -/
theorem FieldBelow.later {key value : Value} {other : Value × Value}
    {others : List (Value × Value)} (below : FieldBelow key value (other :: others))
    (beyond : other.1.compare key = .lt) : FieldBelow key value others := by
  obtain ⟨_, found, below⟩ := below
  rw [Fields.get?_cons_of_lt beyond] at found
  exact ⟨_, found, below⟩

/-- Ascending fields with the same keys and equal values are equal. -/
theorem equalFields_of_below {fields others : List (Value × Value)}
    (ascending : Fields.Ascending fields) (ascending' : Fields.Ascending others)
    (up : ∀ field ∈ fields, FieldBelow field.1 field.2 others)
    (down : ∀ other ∈ others, FieldBelow other.1 other.2 fields)
    (same : ∀ field ∈ fields, ∀ other ∈ others, Below field.2 other.2 → Below other.2 field.2 →
      field.2.equals other.2 = true) :
    equalFields fields others = true := by
  induction fields generalizing others with
  | nil =>
      cases others with
      | nil => rfl
      | cons other _ =>
          obtain ⟨_, found, _⟩ := down other List.mem_cons_self
          cases found
  | cons field rest ih =>
      cases others with
      | nil =>
          obtain ⟨_, found, _⟩ := up field List.mem_cons_self
          cases found
      | cons other others =>
          obtain ⟨above, up⟩ := List.forall_mem_cons.mp up
          obtain ⟨below, down⟩ := List.forall_mem_cons.mp down
          have keys : field.1.compare other.1 = .eq := by
            cases place : field.1.compare other.1 with
            | eq => rfl
            | lt => exact absurd above (not_fieldBelow_of_lt ascending' place)
            | gt =>
                have place := Std.OrientedCmp.lt_of_gt place
                exact absurd below (not_fieldBelow_of_lt ascending place)
          obtain ⟨least, later⟩ := List.pairwise_cons.mp ascending
          obtain ⟨least', later'⟩ := List.pairwise_cons.mp ascending'
          have values : field.2.equals other.2 = true :=
            same field List.mem_cons_self other List.mem_cons_self (above.first ascending' keys)
              (below.first ascending (Std.OrientedCmp.eq_symm keys))
          have rests : equalFields rest others = true := by
            refine ih later later' ?_ ?_ ?_
            · intro next member
              refine (up next member).later ?_
              rw [← Std.TransCmp.congr_left keys]
              exact least next member
            · intro next member
              refine (down next member).later ?_
              rw [Std.TransCmp.congr_left keys]
              exact least' next member
            · intro next member next' member'
              exact same next (List.mem_cons_of_mem _ member) next' (List.mem_cons_of_mem _ member')
          simp only [equalFields, Bool.and_eq_true]
          exact ⟨⟨equals_iff.mpr keys, values⟩, rests⟩

/-- **Settled values with each other's data are equal.** -/
theorem Settled.equals_of_below {left right : Value} (settled : Settled left)
    (settled' : Settled right) (up : Below left right) (down : Below right left) :
    left.equals right = true := by
  induction settled generalizing right with
  | scalar scalar defined => exact Value.equals_of_below scalar defined up
  | @object fields ascending settled ih =>
      obtain ⟨others, rfl, above⟩ := (below_object_iff ascending).mp up
      obtain ⟨_, ⟨⟩, below⟩ := (below_object_iff settled'.ascending).mp down
      exact equalFields_of_below ascending settled'.ascending (fieldsBelow_iff.mp above)
        (fieldsBelow_iff.mp below) fun field member other member' =>
          ih field member (settled'.field other member')

end Value

end Rego
