import Rego.Proofs.Value.Keeping
import Rego.Value.Union

/-!
# Unions of objects

Laying one object over another sets its keys one after the other. The keys ascend, so a key that has
been set is not met again, and what it is set to depends on nothing but what the two objects hold
there (`get?_unionFields`). Values that are not both objects are not merged: the right one takes the
place of the left one (`union_of_flat`). Objects without fields change nothing
(`unionFields_nil_left`), and neither does the object itself (`union_self`).
-/

namespace Rego.Value

set_option autoImplicit false

open Fields (Ascending get? put)

variable {left right fields front rest : List (Value × Value)} {key value : Value}

/-- Values that are not both objects are not merged. -/
theorem union_of_flat {left right : Value} (flat : left.kind ≠ .object ∨ right.kind ≠ .object) :
    left.union right = right := by
  cases right with
  | object fields =>
      cases left with
      | object _ => exact (flat.elim (· rfl) (· rfl)).elim
      | _ => rfl
  | _ => cases left <;> rfl

theorem union_undefined (value : Value) : undefined.union value = value := by
  cases value <;> rfl

/-- A field of the right object is merged with what the left one holds there. -/
theorem unionFields_cons (left : List (Value × Value)) (key value : Value)
    (rest : List (Value × Value)) :
    unionFields left ((key, value) :: rest) =
      unionFields (put key (((Value.object left).lookup key).union value) left) rest := by
  rw [unionFields, lookup]
  cases get? key left with
  | none => rw [Option.getD_none, union_undefined]
  | some current => rfl

/-- **A key that the right object has holds there what it holds merged with what the left one
holds, and any other what the left one holds.** -/
theorem get?_unionFields (ascending : Ascending right) (key : Value)
    (left : List (Value × Value)) :
    get? key (unionFields left right) =
      match get? key right with
      | some value => some (((Value.object left).lookup key).union value)
      | none => get? key left := by
  induction right generalizing left with
  | nil => rfl
  | cons field rest ih =>
      obtain ⟨stored, value⟩ := field
      rw [unionFields_cons, ih (List.pairwise_cons.mp ascending).2]
      by_cases here : key.compare stored = .eq
      · have passed : get? key rest = none := by
          rw [Fields.get?_congr here]
          exact Fields.get?_rest_eq_none ascending
        have found : get? key ((stored, value) :: rest) = some value := by
          rw [get?, if_pos (beq_iff_eq.mpr here)]
        have same : (Value.object left).lookup key = (Value.object left).lookup stored :=
          congrArg (·.getD .undefined) (Fields.get?_congr here left)
        rw [passed, found, same, Fields.get?_congr here]
        exact Fields.get?_put_self _ _ _
      · have later : get? key ((stored, value) :: rest) = get? key rest := by
          rw [get?, if_neg (by simpa using here)]
        have kept (merged : Value) : get? key (put stored merged left) = get? key left :=
          Fields.get?_put_of_ne here merged left
        simp only [later, kept, lookup]

/-! ## Unions that change nothing -/

theorem get?_eq_none_of_last (last : ∀ field ∈ fields, field.1.compare key = .lt) :
    get? key fields = none := by
  induction fields with
  | nil => rfl
  | cons field rest ih =>
      obtain ⟨first, later⟩ := List.forall_mem_cons.mp last
      rw [Fields.get?_cons_of_lt first, ih later]

/-- Fields beyond all others are added as they are. -/
theorem unionFields_of_later (ascending : Ascending (front ++ right)) :
    unionFields front right = front ++ right := by
  induction right generalizing front with
  | nil => exact (List.append_nil front).symm
  | cons field rest ih =>
      obtain ⟨key, value⟩ := field
      have last : ∀ field ∈ front, field.1.compare key = .lt := fun field member =>
        (List.pairwise_append.mp ascending).2.2 field member _ List.mem_cons_self
      have absent : (Value.object front).lookup key = .undefined :=
        congrArg (·.getD .undefined) (get?_eq_none_of_last last)
      have next : front ++ (key, value) :: rest = front ++ [(key, value)] ++ rest := by
        rw [List.append_assoc, List.singleton_append]
      rw [unionFields_cons, absent, union_undefined, Fields.put_of_last value last]
      rw [next] at ascending ⊢
      exact ih ascending

theorem unionFields_nil_left (ascending : Ascending right) : unionFields [] right = right :=
  unionFields_of_later ascending

/-- Laying fields over others changes nothing where these hold the same values already. -/
theorem unionFields_eq_left (ascending : Ascending left)
    (known : ∀ field ∈ right, get? field.1 left = some field.2 ∧ field.2.union field.2 = field.2) :
    unionFields left right = left := by
  induction right with
  | nil => rfl
  | cons field rest ih =>
      obtain ⟨⟨found, same⟩, later⟩ := List.forall_mem_cons.mp known
      have held : (Value.object left).lookup field.1 = field.2 :=
        congrArg (·.getD .undefined) found
      rw [unionFields_cons, held, same, Fields.put_eq_self ascending found, ih later]

/-- **The union of a value with itself is the value.** -/
theorem union_self {value : Value} (ascends : Ascends value) : value.union value = value := by
  induction ascends with
  | scalar scalar => exact union_of_flat (.inl scalar)
  | @object fields ascending _ ih =>
      have same : unionFields fields fields = fields := unionFields_eq_left ascending
        fun field member => ⟨Fields.get?_of_mem ascending member, ih field member⟩
      exact congrArg Value.object same

end Rego.Value
