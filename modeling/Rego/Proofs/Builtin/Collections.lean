import Rego.Proofs.Builtin.Outcomes

/-!
# Builtins on arrays, objects and sets are sound

Sizes are numbers, membership is a boolean, and what is made of arrays or sets is one again; lookups
and unions of objects may give anything. Whatever they are applied to, they fail in the ordinary way
if at all (`sound_of_mem_builtins`).
-/

namespace Rego.Builtin.Collections

set_option autoImplicit false

open Argument

variable (name : String)

theorem returns_count (argument : Value) : Returns .number (count name argument) := by
  unfold count
  split
  case h_5 => exact .failed _ _
  all_goals exact .inr rfl

/-! ## Arrays -/

theorem returns_concat (left right : Value) :
    Returns (.array [] (some (.any []))) (concat name left right) := by
  refine (yields_array name left).bind fun leftItems _ => ?_
  refine (yields_array name right).bind fun rightItems _ => ?_
  exact .inr (Ty.admits_arrayOfAny _)

theorem returns_reverse (array : Value) :
    Returns (.array [] (some (.any []))) (reverse name array) := by
  refine (yields_array name array).bind fun items _ => ?_
  exact .inr (Ty.admits_arrayOfAny _)

theorem returns_slice (array start stop : Value) :
    Returns (.array [] (some (.any []))) (slice name array start stop) := by
  refine (yields_array name array).bind fun items _ => ?_
  refine (yields_number name start).bind fun first _ => ?_
  refine (yields_number name stop).bind fun last _ => ?_
  exact .inr (Ty.admits_arrayOfAny _)

/-! ## Objects -/

theorem returns_get (object key fallback : Value) :
    Returns (.any []) (get name object key fallback) := by
  refine (yields_object name object).bind fun fields _ => ?_
  split <;> exact .inr (Ty.admits_any _)

theorem returns_keys (object : Value) : Returns (.set (some (.any []))) (keys name object) := by
  refine (yields_object name object).bind fun fields _ => ?_
  exact .inr (Ty.admits_setOfAny _)

theorem returns_objectUnion (left right : Value) :
    Returns (.any []) (objectUnion name left right) := by
  refine (yields_object name left).bind fun leftFields _ => ?_
  refine (yields_object name right).bind fun rightFields _ => ?_
  exact .inr (Ty.admits_any _)

theorem returns_unionItems : ∀ (items : List Value) (index : Nat) (merged : Value),
    Returns (.any []) (unionItems name index merged items)
  | [], _, merged => .inr (Ty.admits_any merged)
  | item :: rest, index, merged => by
      cases item with
      | object fields => exact returns_unionItems rest (index + 1) (merged.union (.object fields))
      | _ => exact .failed _ _

theorem returns_objectUnionAll (array : Value) :
    Returns (.any []) (objectUnionAll name array) := by
  refine (yields_array name array).bind fun items _ => ?_
  exact returns_unionItems name items 0 (.object [])

/-! ## Sets -/

theorem returns_combine (operation : List Value → List Value → List Value) (left right : Value) :
    Returns (.set (some (.any []))) (combine name operation left right) := by
  refine (yields_set name left).bind fun leftMembers _ => ?_
  refine (yields_set name right).bind fun rightMembers _ => ?_
  exact .inr (Ty.admits_setOfAny _)

theorem yields_memberLists (argument : Value) (items : List Value) :
    Yields (fun lists => items = lists.map Value.set) (memberLists name argument items) := by
  induction items with
  | nil => exact rfl
  | cons item rest ih =>
      cases item with
      | set members =>
          refine ih.bind fun lists read => ?_
          exact congrArg (Value.set members :: ·) read
      | _ => exact .failed _ _

theorem returns_combineAll (operation : List (List Value) → List Value) (argument : Value) :
    Returns (.set (some (.any []))) (combineAll operation name argument) := by
  refine (yields_set name argument).bind fun sets _ => ?_
  refine (yields_memberLists name argument sets).bind fun lists _ => ?_
  exact .inr (Ty.admits_setOfAny _)

/-- **The builtins on arrays, objects and sets are sound.** -/
theorem sound_of_mem_builtins : ∀ builtin ∈ builtins, builtin.Sound := by
  simp only [builtins, List.forall_mem_cons]
  exact ⟨sound_unary ⟨rfl, rfl, rfl⟩ fun _ => returns_count _ _,
    sound_binary ⟨rfl, rfl, rfl⟩ fun _ _ => .inr rfl,
    sound_ternary ⟨rfl, rfl, rfl⟩ fun _ _ _ => .inr rfl,
    sound_binary ⟨rfl, rfl, rfl⟩ fun _ _ => returns_concat _ _ _,
    sound_unary ⟨rfl, rfl, rfl⟩ fun _ => returns_reverse _ _,
    sound_ternary ⟨rfl, rfl, rfl⟩ fun _ _ _ => returns_slice _ _ _ _,
    sound_ternary ⟨rfl, rfl, rfl⟩ fun _ _ _ => returns_get _ _ _ _,
    sound_unary ⟨rfl, rfl, rfl⟩ fun _ => returns_keys _ _,
    sound_binary ⟨rfl, rfl, rfl⟩ fun _ _ => returns_objectUnion _ _ _,
    sound_unary ⟨rfl, rfl, rfl⟩ fun _ => returns_objectUnionAll _ _,
    sound_binary ⟨rfl, rfl, rfl⟩ fun _ _ => returns_combine _ _ _ _,
    sound_binary ⟨rfl, rfl, rfl⟩ fun _ _ => returns_combine _ _ _ _,
    sound_unary ⟨rfl, rfl, rfl⟩ fun _ => returns_combineAll _ _ _,
    sound_unary ⟨rfl, rfl, rfl⟩ fun _ => returns_combineAll _ _ _,
    fun _ member => absurd member List.not_mem_nil⟩

end Rego.Builtin.Collections
