import Mathlib.Algebra.BigOperators.Group.List.Basic
import Mathlib.Algebra.Ring.Int.Defs
import Rego.Proofs.Builtin.Calls
import Rego.Proofs.Builtin.Outcomes
import Rego.Proofs.Number.Integers

/-!
# Totals of integers

A total runs through its collection from the left and applies one exact operation per step
(`total_ofInt`), so running values may leave the words and come back. The total is the sum or the
product of the integers, and does not depend on their order (`integer_arithmetic_exact`).
-/

namespace Rego.Builtin.Arithmetic

set_option autoImplicit false

open Number (ofInt FitsWord Operation)

/-- An array or a set of integers in their written form. -/
def CollectsIntegers (collection : Value) (wholes : List Int) : Prop :=
  collection = .array (wholes.map .ofInt) ∨ collection = .set (wholes.map .ofInt)

theorem elements_of_collects {collection : Value} {wholes : List Int}
    (collects : CollectsIntegers collection wholes) (name : String) :
    elements name collection = .ok (wholes.map .ofInt) := by
  rcases collects with rfl | rfl <;> rfl

theorem total_cons (name : String) {operation : Number → Number → Except ArithmeticError Number}
    {running number next : Number} (applied : operation running number = .ok next)
    (rest : List Value) :
    total name operation running (.number number :: rest) = total name operation next rest := by
  have argument : Argument.number name (.number number) = .ok number := rfl
  rw [total, argument]
  simp only [bind, Except.bind, applied]

/-- **A total of integers is their exact combination from the left.** -/
theorem total_ofInt (name : String) (operation : Operation) (running : Int) (wholes : List Int) :
    total name operation.apply (ofInt running) (wholes.map .ofInt) =
      .ok (.ofInt (wholes.foldl operation.exact running)) := by
  induction wholes generalizing running with
  | nil => rfl
  | cons whole rest ih =>
      rw [List.map_cons, Value.ofInt, total_cons name (operation.apply_ofInt running whole)]
      exact ih (operation.exact running whole)

/-! ## Calls -/

theorem admits_collection {collection : Value} {wholes : List Int}
    (collects : CollectsIntegers collection wholes) (name : String) (text : Option String) :
    (Ty.named name text (.any [.set (some .number), .array [] (some .number)])).admits collection =
      true := by
  have numbers : ((wholes.map Value.ofInt).all fun item => Ty.number.admits item) = true := by
    rw [List.all_map]
    exact List.all_eq_true.mpr fun whole _ => rfl
  rw [Ty.admits]
  rcases collects with rfl | rfl
  · exact Ty.admits_any_of_mem (by rw [Ty.admits_arrayOf]; exact numbers)
      (List.mem_cons_of_mem _ List.mem_cons_self)
  · exact Ty.admits_any_of_mem (by rw [Ty.admits]; exact numbers) List.mem_cons_self

/-- A declared total takes any collection of integers and combines them. -/
theorem invoke_total {metadata : Metadata} {operation : Operation} {start : Int}
    {name label : String} {text : Option String} {result : Option Ty}
    (found : Registry.standard.find? name = some (unary metadata fun name argument => do
      total name operation.apply (ofInt start) (← elements name argument)))
    (declared : metadata.declaration = ⟨[.named label text
      (.any [.set (some .number), .array [] (some .number)])], result, none⟩)
    (fresh : Registry.isKept name metadata = false) {collection : Value} {wholes : List Int}
    (collects : CollectsIntegers collection wholes) (context : Context) (strict : Bool)
    (query : Query) :
    Registry.standard.invoke context name [collection] strict query =
      (.ok (.ofInt (wholes.foldl operation.exact start)), query) := by
  have checked : Registry.check name metadata.declaration [collection] = .ok () := by
    rw [declared]
    refine Registry.check_ok rfl ?_
    simp [Registry.misfit?, Signature.argument?, admits_collection collects]
  rw [Registry.invoke_plain found checked fresh]
  simp only [elements_of_collects collects, bind, Except.bind, total_ofInt, Registry.settle]

theorem invoke_sum {collection : Value} {wholes : List Int}
    (collects : CollectsIntegers collection wholes) (context : Context) (strict : Bool)
    (query : Query) :
    Registry.standard.invoke context "sum" [collection] strict query =
      (.ok (.ofInt wholes.sum), query) := by
  rw [List.sum_eq_foldl]
  exact @invoke_total Declared.sum .addition 0 "sum" _ _ _ rfl rfl rfl _ _ collects context strict
    query

theorem invoke_product {collection : Value} {wholes : List Int}
    (collects : CollectsIntegers collection wholes) (context : Context) (strict : Bool)
    (query : Query) :
    Registry.standard.invoke context "product" [collection] strict query =
      (.ok (.ofInt wholes.prod), query) := by
  rw [List.prod_eq_foldl]
  exact @invoke_total Declared.product .multiplication 1 "product" _ _ _ rfl rfl rfl _ _ collects
    context strict query

/-! ## Exactness -/

/-- **Arithmetic on integers never rounds.** An integer has one written form, which is a word
exactly if it fits one. Sums, differences, products and magnitudes of integers are the exact ones in
this form, on either side of the bounds of words, and so are the totals of arrays and sets of
integers, which therefore do not depend on the order of the items. -/
theorem integer_arithmetic_exact :
    (∀ (number : Number) (whole : Int), number.integer? = some whole ↔ number = ofInt whole) ∧
    (∀ whole : Int, (∃ value, ofInt whole = .word value) ↔ FitsWord whole) ∧
    (∀ (left right : Number) (first second : Int), left.integer? = some first →
      right.integer? = some second →
        left.add right = .ok (ofInt (first + second)) ∧
        left.sub right = .ok (ofInt (first - second)) ∧
        left.mul right = .ok (ofInt (first * second)) ∧
        left.abs = ofInt first.natAbs) ∧
    (∀ (collection : Value) (wholes : List Int), CollectsIntegers collection wholes →
      ∀ (context : Context) (strict : Bool) (query : Query),
        Registry.standard.invoke context "sum" [collection] strict query =
          (.ok (.ofInt wholes.sum), query) ∧
        Registry.standard.invoke context "product" [collection] strict query =
          (.ok (.ofInt wholes.prod), query)) ∧
    ∀ wholes shuffled : List Int, wholes.Perm shuffled →
      ∀ name ∈ ["sum", "product"], ∀ (context : Context) (strict : Bool) (query : Query),
        Registry.standard.invoke context name [.array (shuffled.map .ofInt)] strict query =
          Registry.standard.invoke context name [.array (wholes.map .ofInt)] strict query := by
  refine ⟨fun number whole => Number.integer?_eq_some_iff, fun whole => Number.exists_word_iff,
    ?_, ?_, ?_⟩
  · intro left right first second one two
    refine ⟨Operation.addition.apply_of_integer? one two,
      Operation.subtraction.apply_of_integer? one two,
      Operation.multiplication.apply_of_integer? one two, ?_⟩
    rw [Number.integer?_eq_some_iff.mp one, Number.abs_ofInt]
  · intro collection wholes collects context strict query
    exact ⟨invoke_sum collects context strict query, invoke_product collects context strict query⟩
  · intro wholes shuffled same name member context strict query
    have array : ∀ items : List Int, CollectsIntegers (.array (items.map .ofInt)) items :=
      fun _ => .inl rfl
    simp only [List.mem_cons, List.not_mem_nil, or_false] at member
    rcases member with rfl | rfl
    · rw [invoke_sum (array shuffled), invoke_sum (array wholes), same.sum_eq]
    · rw [invoke_product (array shuffled), invoke_product (array wholes), same.prod_eq]

/-- One step beyond the greatest word, the magnitude of the least word, and a sum that leaves the
words and comes back in one order and stays among them in another. -/
theorem integer_arithmetic_exact_crossing :
    (let context : Context := ⟨none, false, 0⟩
      let query : Query := ⟨[], .cycling [1], []⟩
      (¬FitsWord (2 ^ 63) ∧ (ofInt (2 ^ 63 - 1)).add (ofInt 1) = .ok (ofInt (2 ^ 63))) ∧
      (FitsWord (-(2 ^ 63)) ∧ (ofInt (-(2 ^ 63))).abs = ofInt (2 ^ 63)) ∧
      List.Perm [2 ^ 63 - 1, 1, -1] [-1, 2 ^ 63 - 1, 1] ∧
      Registry.standard.invoke context "sum" [.array [.ofInt (2 ^ 63 - 1), .ofInt 1, .ofInt (-1)]]
        true query = (.ok (.ofInt (2 ^ 63 - 1)), query) ∧
      Registry.standard.invoke context "sum" [.array [.ofInt (-1), .ofInt (2 ^ 63 - 1), .ofInt 1]]
        true query = (.ok (.ofInt (2 ^ 63 - 1)), query)) := by
  intro context query
  obtain ⟨_, _, arithmetic, totals, orders⟩ := integer_arithmetic_exact
  have step := arithmetic _ _ _ _ (Number.integer?_ofInt (2 ^ 63 - 1)) (Number.integer?_ofInt 1)
  have least := arithmetic _ _ _ _ (Number.integer?_ofInt (-(2 ^ 63))) (Number.integer?_ofInt 1)
  have shuffled : List.Perm [(2 : Int) ^ 63 - 1, 1, -1] [-1, 2 ^ 63 - 1, 1] := by decide
  have total := (totals _ [2 ^ 63 - 1, 1, -1] (.inl rfl) context true query).1
  refine ⟨⟨by decide, step.1⟩, ⟨by decide, least.2.2.2⟩, shuffled, total, ?_⟩
  exact (orders _ _ shuffled "sum" List.mem_cons_self context true query).trans total

end Rego.Builtin.Arithmetic
