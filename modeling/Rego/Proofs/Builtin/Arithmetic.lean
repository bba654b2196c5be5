import Rego.Proofs.Builtin.Outcomes

/-!
# Builtins on numbers are sound

Arithmetic gives numbers, subtraction also sets, and ranges give arrays of numbers; whatever they
are applied to, they fail in the ordinary way if at all (`sound_of_mem_builtins`).
-/

namespace Rego.Builtin.Arithmetic

set_option autoImplicit false

open Argument

variable (name : String)

theorem returns_outcome (result : Except ArithmeticError Number) :
    Returns .number (outcome name result) := by
  cases result with
  | ok number => exact .inr rfl
  | error error => exact .failed _ _

theorem returns_combine (operation : Number → Number → Except ArithmeticError Number)
    (left right : Value) : Returns .number (combine name operation left right) :=
  (yields_number name left).bind fun leftNumber _ =>
    (yields_number name right).bind fun rightNumber _ =>
      returns_outcome name (operation leftNumber rightNumber)

/-- The difference of two sets is a set, and any other difference is a number. -/
theorem returns_minus (left right : Value) :
    Returns (.any [.number, .set (some (.any []))]) (minus name left right) := by
  unfold minus
  split
  · exact .inr (Ty.admits_any_of_mem (Ty.admits_setOfAny _) (List.mem_cons_of_mem _
      List.mem_cons_self))
  · exact .failed _ _
  · exact .failed _ _
  · refine (returns_combine name Number.sub _ _).mono fun value => Or.imp_right fun admitted => ?_
    exact Ty.admits_any_of_mem admitted List.mem_cons_self

theorem returns_transform (operation : Number → Number) (argument : Value) :
    Returns .number (transform name operation argument) :=
  (yields_number name argument).bind fun _ _ => .inr rfl

/-! ## Bits -/

theorem yields_integral (argument : Value) :
    Yields (fun number => argument = .number number ∧ number.isInteger = true)
      (integral name argument) := by
  refine (yields_number name argument).bind fun number read => ?_
  split
  · rename_i whole
    exact ⟨read, whole⟩
  · exact .failed _ _

theorem yields_places (argument : Value) :
    Yields (fun number => argument = .number number ∧ number.isInteger = true)
      (places name argument) := by
  refine (yields_integral name argument).bind fun number read => ?_
  split
  · exact .failed _ _
  · exact read

theorem returns_combineBits {readSecond : String → Value → Except BuiltinError Number}
    {good : Number → Prop} (operation : Number → Number → Option Number) (left : Value)
    {right : Value} (second : Yields good (readSecond name right)) :
    Returns .number (combineBits name readSecond operation left right) := by
  refine (yields_integral name left).bind fun leftNumber _ => second.bind fun rightNumber _ => ?_
  split
  · exact .inr rfl
  · exact .failed _ _

theorem returns_negate (argument : Value) : Returns .number (negate name argument) := by
  refine (yields_integral name argument).bind fun number _ => ?_
  split
  · exact .inr rfl
  · exact .failed _ _

/-! ## Totals and ranges -/

theorem yields_elements (argument : Value) :
    Yields (fun items => argument = .array items ∨ argument = .set items)
      (elements name argument) := by
  unfold elements
  split
  · exact .inl rfl
  · exact .inr rfl
  · exact .failed _ _

theorem returns_total (operation : Number → Number → Except ArithmeticError Number) :
    ∀ (items : List Value) (running : Number), Returns .number (total name operation running items)
  | [], _ => .inr rfl
  | item :: rest, running => by
      refine (yields_number name item).bind fun number _ => ?_
      split
      · exact returns_total operation rest _
      · exact .failed _ _

theorem returns_totalOf (operation : Number → Number → Except ArithmeticError Number)
    (start : Number) (argument : Value) :
    Returns .number (elements name argument >>= total name operation start) :=
  (yields_elements name argument).bind fun items _ => returns_total name operation items start

theorem allows_rangeValue (start stop : Int) (step : Step) :
    (Ty.array [] (some .number)).Allows (rangeValue start stop step) := by
  refine Ty.allows_of_admits ?_
  rw [rangeValue, Ty.admits_arrayOf, List.all_map]
  exact List.all_eq_true.mpr fun whole _ => rfl

theorem returns_range (start stop : Value) :
    Returns (.array [] (some .number)) (range name start stop) :=
  (yields_integer name start).bind fun _ _ =>
    (yields_integer name stop).bind fun _ _ => allows_rangeValue _ _ _

theorem returns_rangeStep (start stop step : Value) :
    Returns (.array [] (some .number)) (rangeStep name start stop step) := by
  refine (yields_integer name start).bind fun _ _ =>
    (yields_integer name stop).bind fun _ _ => (yields_integer name step).bind fun _ _ => ?_
  split
  · exact allows_rangeValue _ _ _
  · exact .failed _ _

/-- **The builtins on numbers are sound.** -/
theorem sound_of_mem_builtins : ∀ builtin ∈ builtins, builtin.Sound := by
  simp only [builtins, List.forall_mem_cons]
  exact ⟨sound_unary ⟨rfl, rfl, rfl⟩ fun _ => returns_transform _ _ _,
    sound_unary ⟨rfl, rfl, rfl⟩ fun _ => returns_transform _ _ _,
    sound_unary ⟨rfl, rfl, rfl⟩ fun _ => returns_transform _ _ _,
    sound_unary ⟨rfl, rfl, rfl⟩ fun _ => returns_transform _ _ _,
    sound_binary ⟨rfl, rfl, rfl⟩ fun _ _ => returns_combine _ _ _ _,
    sound_binary ⟨rfl, rfl, rfl⟩ fun _ _ => returns_minus _ _ _,
    sound_binary ⟨rfl, rfl, rfl⟩ fun _ _ => returns_combine _ _ _ _,
    sound_binary ⟨rfl, rfl, rfl⟩ fun _ _ => returns_combine _ _ _ _,
    sound_binary ⟨rfl, rfl, rfl⟩ fun _ _ => returns_combine _ _ _ _,
    sound_binary ⟨rfl, rfl, rfl⟩ fun _ _ => returns_combineBits _ _ _ (yields_integral _ _),
    sound_binary ⟨rfl, rfl, rfl⟩ fun _ _ => returns_combineBits _ _ _ (yields_integral _ _),
    sound_binary ⟨rfl, rfl, rfl⟩ fun _ _ => returns_combineBits _ _ _ (yields_integral _ _),
    sound_binary ⟨rfl, rfl, rfl⟩ fun _ _ => returns_combineBits _ _ _ (yields_places _ _),
    sound_binary ⟨rfl, rfl, rfl⟩ fun _ _ => returns_combineBits _ _ _ (yields_places _ _),
    sound_unary ⟨rfl, rfl, rfl⟩ fun _ => returns_negate _ _,
    sound_unary ⟨rfl, rfl, rfl⟩ fun _ => returns_totalOf _ _ _ _,
    sound_unary ⟨rfl, rfl, rfl⟩ fun _ => returns_totalOf _ _ _ _,
    sound_binary ⟨rfl, rfl, rfl⟩ fun _ _ => returns_range _ _ _,
    sound_ternary ⟨rfl, rfl, rfl⟩ fun _ _ _ => returns_rangeStep _ _ _ _,
    fun _ member => absurd member List.not_mem_nil⟩

end Rego.Builtin.Arithmetic
