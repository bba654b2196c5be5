import Rego.Proofs.Value.Merge

/-!
# The join of two trees

Two trees are compatible when they differ only in keys that one of them lacks (`Compatible`), and
then their join has the keys of both, with the values under common keys joined in turn (`join`).
Nothing here speaks of merges: the join of objects is described by what it has under each key
(`exists_join_object`), and by what one more field of the second object adds to it (`join_cons`),
which is the form in which a merge goes through it. Trees that lie below a common one are compatible
(`compatible_of_below`), and what lies in a tree already is joined to it without any change
(`join_eq_self_of_below`).
-/

namespace Rego

set_option autoImplicit false

namespace Value

/-- Two trees are equal, or both are objects with compatible values under their common keys. -/
inductive Compatible : Value → Value → Prop where
  | equal {left right : Value} (same : left.equals right = true) : Compatible left right
  | object {fields others : List (Value × Value)}
      (common : ∀ key value other, Fields.get? key fields = some value →
        Fields.get? key others = some other → Compatible value other) :
      Compatible (.object fields) (.object others)

/-- The fields whose keys others lack. -/
def further (fields others : List (Value × Value)) : List (Value × Value) :=
  others.filter fun other => (Fields.get? other.1 fields).isNone

mutual

/-- The tree with the data of two compatible trees: objects have the keys of both, and where only
one of the two is defined, or neither is an object, one value stands for both. -/
def join (base overlay : Value) : Value :=
  match base, overlay with
  | .undefined, overlay => overlay
  | .object fields, .object others =>
    .object (Fields.ofList (joinFields fields others ++ further fields others))
  | base, _ => base
termination_by structural base

/-- Each field with the value of its key among others joined to its own. -/
def joinFields (fields others : List (Value × Value)) : List (Value × Value) :=
  match fields with
  | [] => []
  | (key, value) :: rest => (key, join value (existing key others)) :: joinFields rest others
termination_by structural fields

end

/-- What two values found under one key join to, where either may be missing. -/
def joinFound : Option Value → Option Value → Option Value
  | some value, some other => some (join value other)
  | some value, none => some value
  | none, found => found

/-! ## What stands under a key -/

theorem existing_congr {key other : Value} (same : key.compare other = .eq)
    (fields : List (Value × Value)) : existing key fields = existing other fields := by
  unfold existing
  rw [Fields.get?_congr same]

theorem existing_of_get? {key value : Value} {fields : List (Value × Value)}
    (found : Fields.get? key fields = some value) : existing key fields = value := by
  unfold existing
  rw [found]
  rfl

theorem existing_of_get?_eq_none {key : Value} {fields : List (Value × Value)}
    (absent : Fields.get? key fields = none) : existing key fields = .undefined := by
  unfold existing
  rw [absent]
  rfl

theorem existing_put_of_ne {key other : Value} (different : other.compare key ≠ .eq)
    (value : Value) (fields : List (Value × Value)) :
    existing other (Fields.put key value fields) = existing other fields := by
  unfold existing
  rw [Fields.get?_put_of_ne different]

theorem existing_cons (key : Value) (field : Value × Value) (rest : List (Value × Value)) :
    existing key (field :: rest) =
      if key.compare field.1 = .eq then field.2 else existing key rest := by
  unfold existing
  rw [Fields.get?]
  by_cases here : key.compare field.1 = .eq
  · rw [if_pos (beq_iff_eq.mpr here), if_pos here, Option.getD_some]
  · rw [if_neg (by simpa using here), if_neg here]

/-! ## The join of fields -/

@[simp] theorem join_undefined_left (overlay : Value) : join .undefined overlay = overlay := by
  cases overlay <;> rfl

@[simp] theorem join_undefined_right (base : Value) : join base .undefined = base := by
  cases base <;> rfl

theorem join_of_not_object {base overlay : Value} (defined : base ≠ .undefined)
    (scalar : base.kind ≠ .object ∨ overlay.kind ≠ .object) : join base overlay = base := by
  cases base <;> cases overlay <;>
    first
    | rfl
    | exact absurd rfl defined
    | exact scalar.elim (absurd rfl) (absurd rfl)

/-- Fields that are joined to nothing new stay as they are. -/
theorem joinFields_eq_self {fields others : List (Value × Value)}
    (same : ∀ field ∈ fields, join field.2 (existing field.1 others) = field.2) :
    joinFields fields others = fields := by
  induction fields with
  | nil => rfl
  | cons field rest ih =>
      obtain ⟨first, later⟩ := List.forall_mem_cons.mp same
      rw [joinFields, first, ih later]

theorem joinFields_nil (fields : List (Value × Value)) : joinFields fields [] = fields :=
  joinFields_eq_self fun field _ => join_undefined_right field.2

theorem get?_joinFields (key : Value) (fields others : List (Value × Value)) :
    Fields.get? key (joinFields fields others) =
      (Fields.get? key fields).map fun value => join value (existing key others) := by
  induction fields with
  | nil => rfl
  | cons field rest ih =>
      obtain ⟨stored, value⟩ := field
      rw [joinFields, Fields.get?, Fields.get?]
      by_cases here : key.compare stored = .eq
      · rw [if_pos (beq_iff_eq.mpr here), if_pos (beq_iff_eq.mpr here), existing_congr here]
        rfl
      · rw [if_neg (by simpa using here), if_neg (by simpa using here), ih]

theorem keys_joinFields (fields others : List (Value × Value)) :
    (joinFields fields others).map Prod.fst = fields.map Prod.fst := by
  induction fields with
  | nil => rfl
  | cons field rest ih => rw [joinFields, List.map_cons, List.map_cons, ih]

theorem ascending_joinFields {fields : List (Value × Value)} (ascending : Fields.Ascending fields)
    (others : List (Value × Value)) : Fields.Ascending (joinFields fields others) := by
  rw [Fields.ascending_iff_keys, keys_joinFields, ← Fields.ascending_iff_keys]
  exact ascending

/-- A field that is set under a key that the others lack is joined to nothing. -/
theorem joinFields_put {key : Value} {others : List (Value × Value)}
    (absent : Fields.get? key others = none) (value : Value) (fields : List (Value × Value)) :
    joinFields (Fields.put key value fields) others =
      Fields.put key value (joinFields fields others) := by
  have alone : existing key others = .undefined := existing_of_get?_eq_none absent
  induction fields with
  | nil => simp [Fields.put, joinFields, alone]
  | cons field rest ih =>
      obtain ⟨stored, old⟩ := field
      rw [Fields.put, joinFields, Fields.put]
      cases place : key.compare stored with
      | lt => simp only [joinFields, alone, join_undefined_right]
      | eq =>
          rw [existing_congr place] at alone
          simp only [joinFields, alone, join_undefined_right]
      | gt => simp only [joinFields, ih]

/-- A further field that is joined changes the field under its key, if there is one. -/
theorem joinFields_cons {fields : List (Value × Value)} (ascending : Fields.Ascending fields)
    (key value : Value) (rest : List (Value × Value)) :
    joinFields fields ((key, value) :: rest) =
      match Fields.get? key fields with
      | some old => Fields.put key (join old value) (joinFields fields rest)
      | none => joinFields fields rest := by
  induction fields with
  | nil => rfl
  | cons field fields ih =>
      obtain ⟨stored, old⟩ := field
      obtain ⟨least, later⟩ := List.pairwise_cons.mp ascending
      rw [joinFields, joinFields, existing_cons, ih later, Fields.get?]
      by_cases here : key.compare stored = .eq
      · have first : stored.compare key = .eq := Std.OrientedCmp.eq_symm here
        have gone : Fields.get? key fields = none := by
          rw [Fields.get?_congr here]
          exact Fields.get?_rest_eq_none ascending
        rw [if_pos first, gone, if_pos (beq_iff_eq.mpr here)]
        simp only [Fields.put, here]
      · have first : stored.compare key ≠ .eq := fun same => here (Std.OrientedCmp.eq_symm same)
        rw [if_neg first, if_neg (by simpa using here)]
        cases found : Fields.get? key fields with
        | none => rfl
        | some value' =>
            have before : stored.compare key = .lt := by
              obtain ⟨other, member, same⟩ := Fields.exists_mem_of_get? found
              rw [Std.TransCmp.congr_right same]
              exact least (other, value') member
            simp only
            rw [Fields.put_cons_of_lt before]

/-- The join of objects sets the further fields of the second in those joined to the first. -/
theorem join_object {fields : List (Value × Value)} (ascending : Fields.Ascending fields)
    (others : List (Value × Value)) :
    join (.object fields) (.object others) =
      .object ((further fields others).foldl (fun fields entry => Fields.put entry.1 entry.2 fields)
        (joinFields fields others)) := by
  have first := Fields.ofList_of_ascending (ascending_joinFields ascending others)
  unfold Fields.ofList at first
  rw [join, Fields.ofList, List.foldl_append, first]

theorem join_nil {fields : List (Value × Value)} (ascending : Fields.Ascending fields) :
    join (.object fields) (.object []) = .object fields := by
  rw [join_object ascending, joinFields_nil]
  rfl

/-- Fields are joined one after the other. -/
theorem join_cons {fields rest : List (Value × Value)} {key value : Value}
    (ascending : Fields.Ascending fields) (ascending' : Fields.Ascending ((key, value) :: rest)) :
    join (.object fields) (.object ((key, value) :: rest)) =
      join (.object (Fields.put key (join (existing key fields) value) fields)) (.object rest) := by
  have absent := Fields.get?_rest_eq_none ascending'
  have others : further (Fields.put key (join (existing key fields) value) fields) rest =
      further fields rest := by
    refine List.filter_congr fun other member => ?_
    have beyond : other.1.compare key ≠ .eq := by
      rw [Std.OrientedCmp.gt_of_lt ((List.pairwise_cons.mp ascending').1 other member)]
      decide
    rw [Fields.get?_put_of_ne beyond]
  rw [join_object ascending, join_object (Fields.ascending_put ascending _ _), others,
    joinFields_put absent, joinFields_cons ascending]
  -- The key is joined in place when the first object has it, and is its least further key if not.
  cases found : Fields.get? key fields with
  | some old =>
      have here : further fields ((key, value) :: rest) = further fields rest := by
        simp [further, found]
      rw [here, existing_of_get? found]
  | none =>
      have here : further fields ((key, value) :: rest) = (key, value) :: further fields rest := by
        simp [further, found]
      rw [here, existing_of_get?_eq_none found, join_undefined_left, List.foldl_cons]

theorem ascending_further {others : List (Value × Value)} (ascending : Fields.Ascending others)
    (fields : List (Value × Value)) : Fields.Ascending (further fields others) :=
  ascending.sublist List.filter_sublist

theorem get?_further (key : Value) (fields others : List (Value × Value)) :
    Fields.get? key (further fields others) =
      if (Fields.get? key fields).isNone then Fields.get? key others else none := by
  induction others with
  | nil => simp [further, Fields.get?]
  | cons other rest ih =>
      unfold further at ih ⊢
      rw [List.filter_cons, Fields.get?.eq_def key (other :: rest)]
      by_cases here : key.compare other.1 = .eq
      · rw [← Fields.get?_congr here]
        cases found : Fields.get? key fields with
        | some old => simp [ih, found]
        | none => simp [Fields.get?, here]
      · by_cases kept : (Fields.get? other.1 fields).isNone = true
        · rw [if_pos kept, Fields.get?, if_neg (by simpa using here), ih]
          simp [here]
        · rw [if_neg kept, ih]
          simp [here]

/-- **The join of objects has the keys of both, and under each key the join of what they have
there.** -/
theorem exists_join_object {fields others : List (Value × Value)}
    (ascending : Fields.Ascending fields) (ascending' : Fields.Ascending others) :
    ∃ joined, join (.object fields) (.object others) = .object joined ∧
      Fields.Ascending joined ∧ ∀ key, Fields.get? key joined =
        joinFound (Fields.get? key fields) (Fields.get? key others) := by
  refine ⟨_, join_object ascending others, ?_, fun key => ?_⟩
  · exact Fields.ascending_foldl_put (ascending_joinFields ascending others) _
  · rw [Fields.get?_foldl_put key (ascending_further ascending' fields), get?_further,
      get?_joinFields]
    cases found : Fields.get? key fields with
    | none => simp [joinFound]
    | some value =>
        cases found' : Fields.get? key others with
        | none => simp [joinFound, existing_of_get?_eq_none found']
        | some other => simp [joinFound, existing_of_get? found']

/-! ## Compatible trees have a common upper one -/

theorem Compatible.exists_object {base : Value} {others : List (Value × Value)}
    (compatible : Compatible base (.object others)) : ∃ fields, base = .object fields := by
  cases compatible with
  | equal same => cases base <;> first | exact ⟨_, rfl⟩ | cases same
  | object => exact ⟨_, rfl⟩

/-- Compatible objects have compatible values under their common keys. -/
theorem Compatible.common {fields others : List (Value × Value)} {key value other : Value}
    (compatible : Compatible (.object fields) (.object others))
    (found : Fields.get? key fields = some value) (found' : Fields.get? key others = some other) :
    Compatible value other := by
  cases compatible with
  | equal same =>
      obtain ⟨_, known, equal⟩ := Fields.exists_get?_of_equalFields same found
      cases known.symm.trans found'
      exact .equal equal
  | object common => exact common key value other found found'

/-- Trees that lie below one tree are compatible. -/
theorem compatible_of_below {left right upper : Value} (settled : Settled left)
    (settled' : Settled right) (first : Below left upper) (second : Below right upper) :
    Compatible left right := by
  induction settled generalizing right upper with
  | scalar scalar defined =>
      have same := equals_of_below scalar defined first
      cases settled' with
      | scalar scalar' defined' =>
          exact .equal (equals_trans same (equals_symm (equals_of_below scalar' defined' second)))
      | object ascending settled =>
          obtain ⟨others, rfl, _⟩ := (below_object_iff ascending).mp second
          exact absurd (kind_eq_of_equals same) scalar
  | @object fields ascending settled ih =>
      obtain ⟨uppers, rfl, above⟩ := (below_object_iff ascending).mp first
      cases settled' with
      | scalar scalar defined =>
          have same := equals_of_below scalar defined second
          exact absurd (kind_eq_of_equals same) scalar
      | @object others ascending' settled' =>
          have whole := Settled.object ascending' settled'
          obtain ⟨_, ⟨⟩, above'⟩ := (below_object_iff ascending').mp second
          refine .object fun key value other found found' => ?_
          obtain ⟨bound, known, below⟩ := above.fieldBelow found
          obtain ⟨bound', known', below'⟩ := above'.fieldBelow found'
          cases known.symm.trans known'
          obtain ⟨stored, member, _⟩ := Fields.exists_mem_of_get? found
          exact ih (stored, value) member (whole.found found') below below'

/-- **Joining what lies in a tree already changes nothing.** -/
theorem join_eq_self_of_below {base overlay : Value} (settled : Settled base)
    (settled' : Settled overlay) (below : Below overlay base) : join base overlay = base := by
  induction settled generalizing overlay with
  | scalar scalar defined => exact join_of_not_object defined (.inl scalar)
  | @object fields ascending settled ih =>
      cases settled' with
      | scalar scalar _ => exact join_of_not_object nofun (.inr scalar)
      | @object others ascending' settled' =>
          have whole := Settled.object ascending' settled'
          obtain ⟨_, ⟨⟩, above⟩ := (below_object_iff ascending').mp below
          have nothing : further fields others = [] := by
            refine List.filter_eq_nil_iff.mpr fun other member => ?_
            obtain ⟨value, found, _⟩ := fieldsBelow_iff.mp above other member
            simp [found]
          have unchanged : joinFields fields others = fields := by
            refine joinFields_eq_self fun field member => ?_
            have found := Fields.get?_of_mem ascending member
            cases found' : Fields.get? field.1 others with
            | none => rw [existing_of_get?_eq_none found', join_undefined_right]
            | some other =>
                obtain ⟨value, found'', below⟩ := above.fieldBelow found'
                cases found.symm.trans found''
                rw [existing_of_get? found']
                exact ih field member (whole.found found') below
          rw [join_object ascending, nothing, unchanged]
          rfl

end Value

end Rego
