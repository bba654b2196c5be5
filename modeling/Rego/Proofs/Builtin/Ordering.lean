import Rego.Proofs.Builtin.Calls
import Rego.Proofs.Builtin.Outcomes
import Rego.Proofs.Value.Order

/-!
# Comparisons report the order of values

The six comparison builtins take any two values, never fail, and answer from nothing but the order
of the two (`invoke_comparison`). Together with the laws of the order this says that policies see
one total order of all values, and that equality is part of it (`comparisons_report_total_order`).
Extremes and sorting give values of their declared types (`sound_of_mem_builtins`).
-/

namespace Rego.Builtin.Ordering

set_option autoImplicit false

namespace Comparison

/-- The name by which policies ask for a relation. -/
def builtinName : Comparison → String
  | .equal => "equal"
  | .unequal => "neq"
  | .less => "lt"
  | .lessOrEqual => "lte"
  | .greater => "gt"
  | .greaterOrEqual => "gte"

/-- Whether a relation holds of two values that compare in a given way. -/
def admits : Comparison → Ordering → Bool
  | .equal, order => order == .eq
  | .unequal, order => order != .eq
  | .less, order => order == .lt
  | .lessOrEqual, order => order != .gt
  | .greater, order => order == .gt
  | .greaterOrEqual, order => order != .lt

/-- The declaration of the builtin for a relation. -/
def metadata : Comparison → Metadata
  | .equal => Declared.equal
  | .unequal => Declared.neq
  | .less => Declared.lt
  | .lessOrEqual => Declared.lte
  | .greater => Declared.gt
  | .greaterOrEqual => Declared.gte

/-- Whether a relation holds is decided by the order. -/
theorem holds_eq_admits (relation : Comparison) (left right : Value) :
    relation.holds left right = relation.admits (left.compare right) := by
  cases relation with
  | equal => exact Value.equals_eq_compare left right
  | unequal => exact congrArg not (Value.equals_eq_compare left right)
  | less => rfl
  | lessOrEqual => rfl
  | greater => rfl
  | greaterOrEqual => rfl

theorem find?_builtinName (relation : Comparison) :
    Registry.standard.find? relation.builtinName =
      some (binary relation.metadata fun _ => comparison relation) := by
  cases relation <;> rfl

theorem check_values (relation : Comparison) (left right : Value) :
    Registry.check relation.builtinName relation.metadata.declaration [left, right] = .ok () := by
  refine Registry.check_ok (by cases relation <;> rfl) ?_
  cases relation <;>
    simp [metadata, Registry.misfit?, Signature.argument?, Declared.equal, Declared.neq,
      Declared.lt, Declared.lte, Declared.gt, Declared.gte]

theorem isKept_eq_false (relation : Comparison) :
    Registry.isKept relation.builtinName relation.metadata = false := by
  cases relation <;> decide

end Comparison

/-- **A comparison of any two values answers from their order.** -/
theorem invoke_comparison (relation : Comparison) (context : Context) (strict : Bool)
    (query : Query) (left right : Value) :
    Registry.standard.invoke context relation.builtinName [left, right] strict query =
      (.ok (.bool (relation.admits (left.compare right))), query) := by
  rw [Registry.invoke_plain relation.find?_builtinName (relation.check_values left right)
    relation.isKept_eq_false, ← relation.holds_eq_admits]
  rfl

/-- **The order of values is total and transitive, equality is part of it, and the comparison
builtins report it for every two values.** -/
theorem comparisons_report_total_order :
    (∀ left right : Value, right.compare left = (left.compare right).swap) ∧
    (∀ first second third : Value, first.compare second ≠ .gt → second.compare third ≠ .gt →
      first.compare third ≠ .gt) ∧
    (∀ left right : Value, left.equals right = true ↔ left.compare right = .eq) ∧
    ∀ (relation : Comparison) (context : Context) (strict : Bool) (query : Query)
      (left right : Value),
      Registry.standard.invoke context relation.builtinName [left, right] strict query =
        (.ok (.bool (relation.admits (left.compare right))), query) := by
  refine ⟨Value.compare_swap, fun first second third left right => ?_,
    fun left right => Value.equals_iff, invoke_comparison⟩
  rw [Value.chain_compare first second third left right]
  cases h : first.compare second with
  | lt => exact nofun
  | eq => exact right
  | gt => exact absurd h left

/-- A word, a fraction and a big integer: each step of the chain takes a different route. -/
theorem comparisons_report_total_order_mixed :
    (Value.ofInt 1).compare (.number (.float (.ofBits 0x3FF8000000000000))) ≠ .gt ∧
    (Value.number (.float (.ofBits 0x3FF8000000000000))).compare (.ofInt (2 ^ 64)) ≠ .gt ∧
    (Value.ofInt 1).compare (.ofInt (2 ^ 64)) ≠ .gt := by
  have first : (Value.ofInt 1).compare (.number (.float (.ofBits 0x3FF8000000000000))) ≠ .gt := by
    decide +kernel
  have second :
      (Value.number (.float (.ofBits 0x3FF8000000000000))).compare (.ofInt (2 ^ 64)) ≠ .gt := by
    decide +kernel
  exact ⟨first, second, comparisons_report_total_order.2.1 _ _ _ first second⟩

/-! ## Declared results -/

theorem returns_max (name : String) (collection : Value) :
    Returns (.any []) (max name collection) := by
  unfold max
  split
  · exact .inr (Ty.admits_any _)
  · exact .inr (Ty.admits_any _)
  · exact .failed _ _

theorem returns_min (name : String) (collection : Value) :
    Returns (.any []) (min name collection) := by
  unfold min
  split
  · exact .inr (Ty.admits_any _)
  · exact .inr (Ty.admits_any _)
  · exact .failed _ _

theorem returns_sort (name : String) (collection : Value) :
    Returns (.array [] (some (.any []))) (sort name collection) := by
  unfold sort
  split
  · exact .inr (Ty.admits_arrayOfAny _)
  · exact .inr (Ty.admits_arrayOfAny _)
  · exact .failed _ _

/-- **The builtins on the order of values are sound.** -/
theorem sound_of_mem_builtins : ∀ builtin ∈ builtins, builtin.Sound := by
  simp only [builtins, List.forall_mem_cons]
  exact ⟨sound_binary ⟨rfl, rfl, rfl⟩ fun _ _ => .inr rfl,
    sound_binary ⟨rfl, rfl, rfl⟩ fun _ _ => .inr rfl,
    sound_binary ⟨rfl, rfl, rfl⟩ fun _ _ => .inr rfl,
    sound_binary ⟨rfl, rfl, rfl⟩ fun _ _ => .inr rfl,
    sound_binary ⟨rfl, rfl, rfl⟩ fun _ _ => .inr rfl,
    sound_binary ⟨rfl, rfl, rfl⟩ fun _ _ => .inr rfl,
    sound_unary ⟨rfl, rfl, rfl⟩ fun _ => returns_max _ _,
    sound_unary ⟨rfl, rfl, rfl⟩ fun _ => returns_min _ _,
    sound_unary ⟨rfl, rfl, rfl⟩ fun _ => returns_sort _ _,
    fun _ member => absurd member List.not_mem_nil⟩

end Rego.Builtin.Ordering
