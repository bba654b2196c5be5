import Rego.Proofs.Value.Join

/-!
# Merges keep data

Whatever a merge meets, the tree it leaves behind has all the data of the tree it started from: a
merge sets keys one by one, each to a value that has the data of the old one, and stops after the
key with a conflict (`Keeps`, `keeps_merge`). Undefined values may stand anywhere; only the order of
keys is needed, which every well-formed value has. A walk that is blocked by something else than an
object ends before anything is changed (`mergeBelow_of_blocked`), and any other conflict is one of
the merge at the end of the path (`mergeBelow_of_free`).
-/

namespace Rego

set_option autoImplicit false

namespace Value

/-! ## Ascending trees -/

/-- Through all its objects a value ascends. -/
inductive Ascends : Value → Prop where
  | scalar {value : Value} (scalar : value.kind ≠ .object) : Ascends value
  | object {fields : List (Value × Value)} (ascending : Fields.Ascending fields)
      (ascends : ∀ field ∈ fields, Ascends field.2) : Ascends (.object fields)

theorem Ascends.ascending {fields : List (Value × Value)} (ascends : Ascends (.object fields)) :
    Fields.Ascending fields := by
  cases ascends with
  | scalar scalar => exact absurd rfl scalar
  | object ascending => exact ascending

theorem Ascends.field {fields : List (Value × Value)} (ascends : Ascends (.object fields)) :
    ∀ field ∈ fields, Ascends field.2 := by
  cases ascends with
  | scalar scalar => exact absurd rfl scalar
  | object _ fields => exact fields

theorem Ascends.existing {fields : List (Value × Value)} (ascends : Ascends (.object fields))
    (key : Value) : Ascends (existing key fields) := by
  cases found : Fields.get? key fields with
  | none =>
      rw [existing_of_get?_eq_none found]
      exact .scalar (by decide)
  | some old =>
      obtain ⟨stored, member, _⟩ := Fields.exists_mem_of_get? found
      rw [existing_of_get? found]
      exact ascends.field (stored, old) member

mutual

theorem ascends_of_wellFormed : ∀ value : Value, value.WellFormed → Ascends value
  | .object fields, formed => .object formed.2 (ascends_of_fieldsWellFormed fields formed.1)
  | .null, _ => .scalar nofun
  | .bool _, _ => .scalar nofun
  | .number _, _ => .scalar nofun
  | .string _, _ => .scalar nofun
  | .array _, _ => .scalar nofun
  | .set _, _ => .scalar nofun
  | .undefined, _ => .scalar nofun

theorem ascends_of_fieldsWellFormed : ∀ fields : List (Value × Value), FieldsWellFormed fields →
    ∀ field ∈ fields, Ascends field.2
  | [], _ => nofun
  | (_, value) :: rest, formed =>
      List.forall_mem_cons.mpr
        ⟨ascends_of_wellFormed value formed.2.1, ascends_of_fieldsWellFormed rest formed.2.2⟩

end

/-! ## One field -/

/-- The tree that is left behind ascends and has the data of another. -/
structure Keeps (base : Value) (outcome : MergeOutcome) : Prop where
  ascends : Ascends outcome.value
  below : Below base outcome.value

theorem Keeps.of_same {base : Value} (ascends : Ascends base) (conflict : Option String) :
    Keeps base ⟨base, conflict⟩ :=
  ⟨ascends, .refl base⟩

section Field

variable {current : List (Value × Value)} {key : Value}

/-- Setting a key to a value with the data of the old one keeps the data of the object. -/
theorem Keeps.field (ascends : Ascends (.object current)) {outcome : MergeOutcome}
    (inner : Keeps (Value.existing key current) outcome) (conflict : Option String) :
    Keeps (.object current) ⟨.object (Fields.put key outcome.value current), conflict⟩ where
  ascends := by
    refine .object (Fields.ascending_put ascends.ascending _ _) fun field member => ?_
    rcases Fields.mem_put ascends.ascending member with same | before
    · rw [same]
      exact inner.ascends
    · exact ascends.field field before
  below := by
    refine .object (fieldsBelow_iff.mpr fun field member => ?_)
    have known := Fields.get?_of_mem ascends.ascending member
    by_cases here : field.1.compare key = .eq
    · refine (fieldBelow_congr here _ _).mpr ⟨_, Fields.get?_put_self _ _ _, ?_⟩
      rw [Fields.get?_congr here] at known
      rw [← existing_of_get? known]
      exact inner.below
    · exact ⟨field.2, (Fields.get?_put_of_ne here _ _).trans known, .refl _⟩

end Field

/-! ## Whole trees -/

/-- Fields that are merged one after the other keep the data of the object, also when one of them
meets a conflict and the later ones are left out. -/
theorem keeps_mergeFields {current incoming : List (Value × Value)}
    (ascends : Ascends (.object current))
    (step : ∀ field ∈ incoming, ∀ place : Value, Ascends place →
      ∀ path, Keeps place (merge place field.2 path)) (path : String) :
    Keeps (.object current)
      ⟨.object (mergeFields current incoming path).1, (mergeFields current incoming path).2⟩ := by
  induction incoming generalizing current with
  | nil => exact .of_same ascends none
  | cons field rest ih =>
      obtain ⟨key, value⟩ := field
      have inner :=
        step (key, value) List.mem_cons_self _ (ascends.existing key) (childPath path key)
      have one := Keeps.field ascends inner
      cases met : (merge (existing key current) value (childPath path key)).conflict with
      | some conflict =>
          rw [mergeFields_cons_of_conflict met]
          exact one (some conflict)
      | none =>
          rw [mergeFields_cons_of_done met]
          have later := ih (one none).ascends
            fun next member => step next (List.mem_cons_of_mem _ member)
          exact ⟨later.ascends, (one none).below.trans later.below⟩

/-- A merge that does not go into fields puts the overlay where nothing was defined, or leaves the
tree as it is. -/
theorem keeps_merge_flat {base overlay : Value} (ascends : Ascends base)
    (ascends' : Ascends overlay)
    (flat : base.equals overlay = true ∨ base.kind ≠ .object ∨ overlay.kind ≠ .object)
    (path : String) : Keeps base (merge base overlay path) := by
  by_cases defined : base = .undefined
  · subst defined
    rw [merge_undefined]
    exact ⟨ascends', .undefined overlay⟩
  · by_cases same : base.equals overlay = true
    · rw [merge_of_equals defined same]
      exact .of_same ascends none
    · rw [merge_of_scalar defined same (flat.resolve_left same)]
      exact .of_same ascends (some path)

/-- **A merge keeps the data of the tree.** -/
theorem keeps_merge {base overlay : Value} (ascends : Ascends base) (ascends' : Ascends overlay)
    (path : String) : Keeps base (merge base overlay path) := by
  induction ascends' generalizing base path with
  | scalar scalar => exact keeps_merge_flat ascends (.scalar scalar) (.inr (.inr scalar)) path
  | @object incoming ascending ascends' ih =>
      by_cases flat : base.equals (.object incoming) = true ∨ base.kind ≠ .object
      · exact keeps_merge_flat ascends (.object ascending ascends') (flat.imp_right .inl) path
      · obtain ⟨different, object⟩ := not_or.mp flat
        cases base with
        | object current =>
            rw [merge_object different]
            exact keeps_mergeFields ascends
              (fun field member _ ascends path => ih field member ascends path) path
        | _ => exact absurd nofun object

/-! ## Below a path -/

/-- A walk does not go on where something else than an object stands. -/
theorem mergeBelow_of_scalar {base : Value} (scalar : base.kind ≠ .object)
    (defined : base ≠ .undefined) (overlay : Value) (joined : String) (walked : List String)
    (segment : String) (rest : List String) :
    mergeBelow overlay joined walked (segment :: rest) base =
      ⟨base, some (String.intercalate "/" walked)⟩ := by
  cases base <;> first | rfl | exact absurd rfl scalar | exact absurd rfl defined

theorem keeps_mergeBelow {overlay : Value} (ascends' : Ascends overlay) (joined : String)
    (path walked : List String) {base : Value} (ascends : Ascends base) :
    Keeps base (mergeBelow overlay joined walked path base) := by
  induction path generalizing walked base with
  | nil => exact keeps_merge ascends ascends' joined
  | cons segment rest ih =>
      -- A walk turns an undefined place into an empty object before it goes on.
      have below : ∀ fields : List (Value × Value), Ascends (.object fields) →
          Keeps (.object fields)
            (mergeBelow overlay joined walked (segment :: rest) (.object fields)) := by
        intro fields ascends
        rw [mergeBelow_object]
        exact Keeps.field ascends (ih (walked ++ [segment]) (ascends.existing _)) _
      by_cases defined : base = .undefined
      · subst defined
        rw [mergeBelow_undefined]
        exact ⟨(below [] (.object .nil nofun)).ascends, .undefined _⟩
      · cases ascends with
        | scalar scalar =>
            rw [mergeBelow_of_scalar scalar defined]
            exact .of_same (.scalar scalar) _
        | @object fields ascending ascends => exact below fields (.object ascending ascends)

/-! ## Walks that are blocked -/

/-- The value at a path of keys, which is undefined where there is none. -/
def descend : List String → Value → Value
  | [], value => value
  | segment :: rest, .object fields => descend rest (existing (.string segment) fields)
  | _ :: _, _ => .undefined

/-- A path leads on from a place where something else than an object stands. -/
def Blocked (front path : List String) (base : Value) : Prop :=
  front <+: path ∧ front ≠ path ∧ (descend front base).kind ≠ .object ∧
    descend front base ≠ .undefined

theorem descend_undefined (path : List String) : descend path .undefined = .undefined := by
  cases path <;> rfl

theorem not_blocked_undefined (front path : List String) : ¬Blocked front path .undefined := by
  rintro ⟨_, _, _, defined⟩
  exact defined (descend_undefined front)

/-- A walk through a key is blocked where the walk on from there is. -/
theorem blocked_cons_iff {segment : String} {front path : List String}
    {fields : List (Value × Value)} :
    Blocked (segment :: front) (segment :: path) (.object fields) ↔
      Blocked front path (existing (.string segment) fields) := by
  unfold Blocked
  rw [List.prefix_cons_inj, ne_eq, List.cons_inj_right]
  rfl

/-- **A blocked walk changes nothing.** -/
theorem mergeBelow_of_blocked {overlay base : Value} {front path : List String}
    (ascends : Ascends base) (blocked : Blocked front path base) (joined : String)
    (walked : List String) :
    mergeBelow overlay joined walked path base =
      ⟨base, some (String.intercalate "/" (walked ++ front))⟩ := by
  induction front generalizing path base walked with
  | nil =>
      obtain ⟨_, more, (scalar : base.kind ≠ .object), (defined : base ≠ .undefined)⟩ := blocked
      obtain ⟨segment, rest, rfl⟩ := List.exists_cons_of_ne_nil (Ne.symm more)
      rw [mergeBelow_of_scalar scalar defined, List.append_nil]
  | cons segment front ih =>
      obtain ⟨rest, rfl⟩ := blocked.1
      rw [List.cons_append] at blocked ⊢
      cases base with
      | object fields =>
          have inner := ih (ascends.existing _) (blocked_cons_iff.mp blocked) (walked ++ [segment])
          -- A missing key is no obstacle, so the key is there and is set to what it had.
          have found : Fields.get? (.string segment) fields =
              some (existing (.string segment) fields) := by
            cases known : Fields.get? (.string segment) fields with
            | some old => rw [existing_of_get? known]
            | none =>
                have nothing := existing_of_get?_eq_none known
                rw [blocked_cons_iff, nothing] at blocked
                exact absurd blocked (not_blocked_undefined _ _)
          rw [mergeBelow_object, inner, Fields.put_eq_self ascends.ascending found,
            List.append_assoc, List.singleton_append]
      | _ => exact absurd rfl blocked.2.2.2

/-- **A walk that is not blocked leaves what the merge at the end of the path leaves there,** and
meets a conflict exactly when that merge does. -/
theorem mergeBelow_of_free {overlay base : Value} {path : List String}
    (free : ∀ front, ¬Blocked front path base) (joined : String) (walked : List String) :
    descend path (mergeBelow overlay joined walked path base).value =
        (merge (descend path base) overlay joined).value ∧
      (mergeBelow overlay joined walked path base).conflict =
        (merge (descend path base) overlay joined).conflict := by
  induction path generalizing base walked with
  | nil => exact ⟨rfl, rfl⟩
  | cons segment rest ih =>
      have below : ∀ fields : List (Value × Value),
          (∀ front, ¬Blocked front rest (existing (.string segment) fields)) →
          descend (segment :: rest)
              (mergeBelow overlay joined walked (segment :: rest) (.object fields)).value =
            (merge (descend (segment :: rest) (.object fields)) overlay joined).value ∧
          (mergeBelow overlay joined walked (segment :: rest) (.object fields)).conflict =
            (merge (descend (segment :: rest) (.object fields)) overlay joined).conflict := by
        intro fields free
        obtain ⟨value, conflict⟩ := ih free (walked ++ [segment])
        rw [mergeBelow_object]
        refine ⟨?_, conflict⟩
        rw [descend, existing_of_get? (Fields.get?_put_self _ _ _)]
        exact value
      by_cases defined : base = .undefined
      · subst defined
        have inner := below [] fun front => not_blocked_undefined front rest
        rw [mergeBelow_undefined, descend_undefined]
        have nothing : descend (segment :: rest) (.object []) = .undefined := descend_undefined rest
        rwa [nothing] at inner
      · by_cases object : base.kind = .object
        · cases base with
          | object fields =>
              exact below fields fun front blocked =>
                free (segment :: front) (blocked_cons_iff.mpr blocked)
          | _ => cases object
        · exact absurd ⟨List.nil_prefix, (List.cons_ne_nil _ _).symm, object, defined⟩ (free [])

/-- **A merge never destroys data.** The tree it leaves behind has all the data of the tree before,
whether or not it met a conflict. When the walk along the path is blocked, nothing is changed and
the conflict is at the place where it is blocked; otherwise the conflict, if any, is that of the
merge at the end of the path. -/
theorem mergeAt_keeps {base overlay : Value} (formed : base.WellFormed)
    (formed' : overlay.WellFormed) (path : List String) :
    Below base (mergeAt base path overlay).value ∧
    (∀ front, Blocked front path base →
      mergeAt base path overlay = ⟨base, some (String.intercalate "/" front)⟩) ∧
    ((∀ front, ¬Blocked front path base) →
      descend path (mergeAt base path overlay).value =
        (merge (descend path base) overlay (String.intercalate "/" path)).value ∧
      (mergeAt base path overlay).conflict =
        (merge (descend path base) overlay (String.intercalate "/" path)).conflict) := by
  have ascends := ascends_of_wellFormed base formed
  have ascends' := ascends_of_wellFormed overlay formed'
  refine ⟨(keeps_mergeBelow ascends' _ path [] ascends).below, ?_, ?_⟩
  · intro front blocked
    exact mergeBelow_of_blocked ascends blocked _ []
  · intro free
    exact mergeBelow_of_free free _ []

/-- A merge that conflicts at one key after it has set another, and a walk that ends at a leaf. -/
theorem mergeAt_keeps_midway :
    mergeAt (wrap ["a", "x"] (.bool true)) ["a"]
        (.object [(.string "b", .undefined), (.string "x", .null)]) =
      ⟨wrap ["a"] (.object [(.string "b", .undefined), (.string "x", .bool true)]),
        some "a/x"⟩ ∧
    Below (wrap ["a", "x"] (.bool true))
      (wrap ["a"] (.object [(.string "b", .undefined), (.string "x", .bool true)])) ∧
    mergeAt (wrap ["a", "x"] (.bool true)) ["a", "x", "y"]
        (.object [(.string "b", .undefined), (.string "x", .null)]) =
      ⟨wrap ["a", "x"] (.bool true), some "a/x"⟩ := by
  have formed : WellFormed (wrap ["a", "x"] (.bool true)) :=
    ⟨⟨trivial, ⟨⟨trivial, trivial, trivial⟩, ascending_singleton _ _⟩, trivial⟩,
      ascending_singleton _ _⟩
  have formed' : WellFormed (.object [(.string "b", .undefined), (.string "x", .null)]) :=
    ⟨⟨trivial, trivial, trivial, trivial, trivial⟩, by decide +kernel⟩
  have met : mergeAt (wrap ["a", "x"] (.bool true)) ["a"]
        (.object [(.string "b", .undefined), (.string "x", .null)]) =
      ⟨wrap ["a"] (.object [(.string "b", .undefined), (.string "x", .bool true)]),
        some "a/x"⟩ := rfl
  have kept := (mergeAt_keeps formed formed' ["a"]).1
  rw [met] at kept
  have leaf : descend ["a", "x"] (wrap ["a", "x"] (.bool true)) = .bool true := rfl
  refine ⟨met, kept, (mergeAt_keeps formed formed' ["a", "x", "y"]).2.1 ["a", "x"] ?_⟩
  exact ⟨⟨["y"], rfl⟩, by decide, by simp [leaf, kind], by simp [leaf]⟩

end Value

end Rego
