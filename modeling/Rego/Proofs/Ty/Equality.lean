import Rego.Proofs.Value.Fields
import Rego.Ty.Matching

/-!
# Types do not tell equal values apart

Equal values may be written differently, with a number now as an integer and now as a whole double,
at any depth. A type admits both or neither (`admits_congr`): it looks at kinds, which agree, at the
items of lists in order, and at fields by their keys, which are looked up by equality.
-/

namespace Rego

set_option autoImplicit false

namespace Value

theorem equalItems_drop : ∀ (count : Nat) {items others : List Value},
    equalItems items others = true → equalItems (items.drop count) (others.drop count) = true
  | 0, _, _, same => same
  | _ + 1, [], [], _ => rfl
  | count + 1, _ :: _, _ :: _, same => equalItems_drop count (Bool.and_eq_true_iff.mp same).2

theorem isEmpty_congr {items others : List Value} (same : equalItems items others = true) :
    items.isEmpty = others.isEmpty := by
  cases items with
  | nil =>
      cases others with
      | nil => rfl
      | cons _ _ => cases same
  | cons _ _ =>
      cases others with
      | nil => cases same
      | cons _ _ => rfl

/-- A test that does not tell equal values apart holds of all items of both of two equal lists or
of neither. -/
theorem all_congr_of_equalItems {test : Value → Bool}
    (congr : ∀ {left right : Value}, left.equals right = true → test left = test right)
    {items others : List Value} (same : equalItems items others = true) :
    items.all test = others.all test := by
  induction items generalizing others with
  | nil =>
      cases others with
      | nil => rfl
      | cons _ _ => cases same
  | cons item rest ih =>
      cases others with
      | nil => cases same
      | cons other others =>
          obtain ⟨first, later⟩ := Bool.and_eq_true_iff.mp same
          rw [List.all_cons, List.all_cons, congr first, ih later]

end Value

namespace Ty

open Value

/-- Equal fields have equal further fields. -/
theorem equalFields_furtherFields (properties : List (Value × Ty))
    {fields others : List (Value × Value)} (same : equalFields fields others = true) :
    equalFields (furtherFields properties fields) (furtherFields properties others) = true := by
  induction fields generalizing others with
  | nil =>
      cases others with
      | nil => rfl
      | cons _ _ => cases same
  | cons field rest ih =>
      cases others with
      | nil => cases same
      | cons other others =>
          simp only [equalFields, Bool.and_eq_true] at same
          obtain ⟨⟨keys, values⟩, rests⟩ := same
          have later := ih rests
          have listed : (properties.any fun property => property.1.equals field.1) =
              properties.any fun property => property.1.equals other.1 := by
            refine congrArg properties.any (funext fun property => ?_)
            rw [equals_eq_compare, equals_eq_compare,
              Std.TransCmp.congr_right (equals_iff.mp keys)]
          unfold furtherFields at later ⊢
          rw [List.filter_cons, List.filter_cons, listed]
          split
          · simp only [equalFields, keys, values, later, Bool.and_self]
          · exact later

/-- Two equal field lists have equal values under a key, or neither has one. -/
theorem get?_cases_of_equalFields (key : Value) {fields others : List (Value × Value)}
    (same : equalFields fields others = true) :
    (Fields.get? key fields = none ∧ Fields.get? key others = none) ∨
      ∃ value other, Fields.get? key fields = some value ∧ Fields.get? key others = some other ∧
        value.equals other = true := by
  have back : equalFields others fields = true := by
    have objects : (Value.object others).equals (.object fields) = true := equals_symm same
    exact objects
  cases one : Fields.get? key fields with
  | some value =>
      obtain ⟨other, found, values⟩ := Fields.exists_get?_of_equalFields same one
      exact .inr ⟨value, other, rfl, found, values⟩
  | none =>
      cases two : Fields.get? key others with
      | none => exact .inl ⟨rfl, rfl⟩
      | some other =>
          obtain ⟨value, found, _⟩ := Fields.exists_get?_of_equalFields back two
          rw [found] at one
          cases one

mutual

/-- **A type admits both of two equal values or neither.** -/
theorem admits_congr : ∀ (type : Ty) {left right : Value}, left.equals right = true →
    type.admits left = type.admits right
  | .named _ _ inner, left, right, same => by
      rw [admits, admits]
      exact admits_congr inner same
  | .any alternatives, left, right, same => by
      rw [admits, admits, admitsAny_congr alternatives same]
  | .null, left, right, same => by cases left <;> cases right <;> first | rfl | cases same
  | .boolean, left, right, same => by cases left <;> cases right <;> first | rfl | cases same
  | .number, left, right, same => by cases left <;> cases right <;> first | rfl | cases same
  | .string, left, right, same => by cases left <;> cases right <;> first | rfl | cases same
  | .function _ _ _, left, right, same => by cases left <;> cases right <;> rfl
  | .array leading further, left, right, same => by
      cases left with
      | array items =>
          cases right with
          | array others =>
              rw [admits, admits, admitsLeading_congr leading same,
                admitsFurther_congr further (equalItems_drop leading.length same)]
          | _ => cases same
      | _ => cases right <;> first | rfl | cases same
  | .set none, left, right, same => by cases left <;> cases right <;> first | rfl | cases same
  | .set (some type), left, right, same => by
      cases left with
      | set members =>
          cases right with
          | set others =>
              rw [admits, admits]
              exact all_congr_of_equalItems (admits_congr type) same
          | _ => cases same
      | _ => cases right <;> first | rfl | cases same
  | .object properties further, left, right, same => by
      cases left with
      | object fields =>
          cases right with
          | object others =>
              rw [admits, admits, admitsProperties_congr properties same,
                admitsFurtherFields_congr further (equalFields_furtherFields properties same)]
          | _ => cases same
      | _ => cases right <;> first | rfl | cases same

theorem admitsAny_congr : ∀ (types : List Ty) {left right : Value}, left.equals right = true →
    admitsAny types left = admitsAny types right
  | [], _, _, _ => rfl
  | type :: rest, left, right, same => by
      rw [admitsAny, admitsAny, admits_congr type same, admitsAny_congr rest same]

theorem admitsLeading_congr : ∀ (types : List Ty) {items others : List Value},
    equalItems items others = true → admitsLeading types items = admitsLeading types others
  | [], _, _, _ => by rw [admitsLeading, admitsLeading]
  | _ :: _, [], [], _ => rfl
  | type :: rest, item :: items, other :: others, same => by
      obtain ⟨first, later⟩ := Bool.and_eq_true_iff.mp same
      rw [admitsLeading, admitsLeading, admits_congr type first, admitsLeading_congr rest later]

theorem admitsFurther_congr : ∀ (type : Option Ty) {items others : List Value},
    equalItems items others = true → admitsFurther type items = admitsFurther type others
  | none, _, _, same => isEmpty_congr same
  | some type, _, _, same => by
      rw [admitsFurther, admitsFurther]
      exact all_congr_of_equalItems (admits_congr type) same

theorem admitsProperties_congr : ∀ (properties : List (Value × Ty))
    {fields others : List (Value × Value)}, equalFields fields others = true →
      admitsProperties properties fields = admitsProperties properties others
  | [], _, _, _ => by rw [admitsProperties, admitsProperties]
  | (key, type) :: rest, fields, others, same => by
      rw [admitsProperties, admitsProperties, admitsProperties_congr rest same]
      rcases get?_cases_of_equalFields key same with ⟨one, two⟩ | ⟨value, other, one, two, values⟩
      · rw [one, two]
      · simp only [one, two, admits_congr type values]

theorem admitsFurtherFields_congr : ∀ (types : Option (Ty × Ty))
    {fields others : List (Value × Value)}, equalFields fields others = true →
      admitsFurtherFields types fields = admitsFurtherFields types others
  | none, [], [], _ => rfl
  | none, _ :: _, _ :: _, _ => rfl
  | some _, [], [], _ => rfl
  | some (key, value), field :: fields, other :: others, same => by
      simp only [equalFields, Bool.and_eq_true] at same
      obtain ⟨⟨keys, values⟩, rests⟩ := same
      have later := admitsFurtherFields_congr (some (key, value)) rests
      rw [admitsFurtherFields, admitsFurtherFields] at later ⊢
      rw [List.all_cons, List.all_cons, admits_congr key keys, admits_congr value values, later]

end

end Ty

end Rego
