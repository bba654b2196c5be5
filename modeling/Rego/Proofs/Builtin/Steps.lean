import Rego.Proofs.Builtin.Declarations
import Rego.Proofs.Ty.Equality

/-!
# What one call does to a query

The check of arguments does not tell arguments apart that are equal one by one
(`check_eq_ok_congr`). Of the builtins of this library some draw, and these are the ones whose
results are kept (`isKept_iff`); the others change nothing but the events of a query
(`exists_events_of_not_mem_drawing`). So a call has three ends (`step`): it repeats a kept result and
changes nothing, or it draws a value and keeps it under a new key, or it changes nothing but the
events and is no successful call of a builtin that draws.
-/

namespace Rego

set_option autoImplicit false

/-! ## Equal arguments -/

theorem SameArguments.exists_getElem?_eq_some {argument : Value} {position : Nat} :
    ∀ {arguments others : List Value}, SameArguments arguments others →
      others[position]? = some argument →
      ∃ original, arguments[position]? = some original ∧ original.equals argument = true := by
  intro arguments others same
  unfold SameArguments at same
  induction same generalizing position with
  | nil => exact nofun
  | cons first _ ih =>
      intro found
      cases position with
      | zero =>
          cases found
          exact ⟨_, rfl, first⟩
      | succ position => exact ih found

theorem Value.isUndefined_congr {left right : Value} (same : left.equals right = true) :
    left.isUndefined = right.isUndefined := by
  cases left <;> cases right <;> first | rfl | cases same

namespace Signature

variable {signature : Signature} {arguments others : List Value}

theorem Accepts.congr {position : Nat} {left right : Value} (same : left.equals right = true)
    (accepts : signature.Accepts position left) : signature.Accepts position right := by
  rcases accepts with undefined | ⟨type, expects, admitted⟩
  · exact .inl ((Value.isUndefined_congr same).symm.trans undefined)
  · exact .inr ⟨type, expects, (type.admits_congr same).symm.trans admitted⟩

theorem Fits.congr (same : SameArguments arguments others) (fits : signature.Fits arguments) :
    signature.Fits others := by
  intro position argument found
  obtain ⟨original, present, equal⟩ := same.exists_getElem?_eq_some found
  exact (fits position original present).congr equal

theorem Miscounts.congr (same : SameArguments arguments others)
    (miscounts : signature.Miscounts arguments) : signature.Miscounts others := by
  unfold Miscounts at miscounts ⊢
  rw [← List.Forall₂.length_eq same]
  exact miscounts

end Signature

namespace Registry

open Builtin.Effects

variable {context : Context} {name : String} {builtin : Builtin} {arguments others : List Value}
  {strict : Bool} {query : Query} {value : Value}

/-- Arguments that are equal one by one to some that pass the check pass it as well. -/
theorem check_eq_ok_congr {signature : Signature} (same : SameArguments arguments others)
    (checked : check name signature arguments = .ok ()) :
    check name signature others = .ok () := by
  rcases check_cases name signature arguments with ⟨_, refused⟩ | ⟨counted, fits, _⟩ |
    ⟨_, _, _, _, _, refused⟩
  · rw [checked] at refused
    cases refused
  · rcases check_cases name signature others with ⟨miscounted, _⟩ | ⟨_, _, passed⟩ |
      ⟨_, _, _, _, misfit, _⟩
    · exact absurd (miscounted.congr same.symm) counted
    · exact passed
    · exact absurd (fits.congr same) misfit.not_fits
  · rw [checked] at refused
    cases refused

/-! ## Builtins that draw and others -/

/-- Whether an implementation looks at nothing but the arguments. -/
def isPlain : Implementation → Bool
  | .plain _ => true
  | .stateful _ => false

theorem run_of_isPlain {implementation : Implementation}
    (plain : isPlain implementation = true) (context : Context) (arguments : List Value)
    (query : Query) : (implementation.run context arguments query).2 = query := by
  cases implementation with
  | plain run => rfl
  | stateful run => cases plain

theorem plain_of_mem : ∀ builtin ∈ Builtin.Arithmetic.builtins ++ Builtin.Ordering.builtins ++
    Builtin.Collections.builtins ++ Builtin.Strings.builtins ++ Builtin.Conversions.builtins ++
      Builtin.Encodings.builtins,
    isPlain builtin.implementation = true ∧ builtin.metadata.name ∉ drawing := by
  decide +kernel

theorem isKept_iff_of_mem : ∀ builtin ∈ builtins,
    isKept builtin.metadata.name builtin.metadata = true ↔ builtin.metadata.name ∈ drawing := by
  decide +kernel

/-- Results are kept of the builtins that draw, and of no others. -/
theorem isKept_iff (found : standard.find? name = some builtin) :
    isKept name builtin.metadata = true ↔ name ∈ drawing := by
  obtain ⟨member, rfl⟩ := mem_of_standard_find? found
  exact isKept_iff_of_mem builtin member

theorem drew_of_mem_drawing (found : standard.find? name = some builtin) (drawn : name ∈ drawing)
    (counted : arguments.length = builtin.metadata.arity) :
    Drew context.timestamp name arguments query
      (builtin.implementation.run context arguments query) := by
  obtain ⟨member, rfl⟩ := mem_of_standard_find? found
  rcases List.mem_append.mp member with plain | effect
  · exact absurd drawn (plain_of_mem builtin plain).2
  · rcases drawing_or_noting builtin effect with draws | notes
    · exact draws.drew context arguments query counted
    · exact absurd drawn notes.unlisted

theorem exists_events_of_not_mem_drawing (found : standard.find? name = some builtin)
    (other : name ∉ drawing) (counted : arguments.length = builtin.metadata.arity) :
    ∃ events, (builtin.implementation.run context arguments query).2 =
      { query with events := events } := by
  obtain ⟨member, rfl⟩ := mem_of_standard_find? found
  rcases List.mem_append.mp member with plain | effect
  · exact ⟨query.events, run_of_isPlain (plain_of_mem builtin plain).1 context arguments query⟩
  · rcases drawing_or_noting builtin effect with draws | notes
    · exact absurd draws.listed other
    · exact (notes.noted context arguments query counted).2

/-! ## One call -/

/-- A call of a builtin that draws, with arguments that pass the check. -/
def Admitted (name : String) (arguments : List Value) : Prop :=
  name ∈ drawing ∧ ∃ builtin, standard.find? name = some builtin ∧
    check name builtin.metadata.declaration arguments = .ok ()

theorem Admitted.congr (same : SameArguments arguments others)
    (admitted : Admitted name arguments) : Admitted name others := by
  obtain ⟨drawn, builtin, found, checked⟩ := admitted
  exact ⟨drawn, builtin, found, check_eq_ok_congr same checked⟩

/-- An admitted call repeats what is kept. -/
theorem invoke_of_get?_eq_some (admitted : Admitted name arguments)
    (known : query.cache.get? name arguments = some value) :
    standard.invoke context name arguments strict query = (.ok value, query) := by
  obtain ⟨drawn, builtin, found, checked⟩ := admitted
  rw [invoke_of_find? found, checkAndPerform_of_check_eq_ok checked,
    perform_of_get?_eq_some ((isKept_iff found).mpr drawn) known]
  rfl

/-- The three ends of a call. -/
inductive Step (timestamp : Int) (name : String) (arguments : List Value) (query : Query) :
    Except CallError Value × Query → Prop where
  | repeated {value : Value} (admitted : Admitted name arguments)
      (known : query.cache.get? name arguments = some value) :
      Step timestamp name arguments query (.ok value, query)
  | drawn {value : Value} {generator : Generator} (admitted : Admitted name arguments)
      (missing : query.cache.get? name arguments = none)
      (draws : Draws timestamp name arguments value) :
      Step timestamp name arguments query
        (.ok value, ⟨query.cache ++ [⟨name, arguments, value⟩], generator, query.events⟩)
  | idle {answer : Except CallError Value} {events : List TraceEvent}
      (fails : name ∈ drawing → ∀ value, answer = .ok value → value = .undefined) :
      Step timestamp name arguments query (answer, { query with events := events })

/-- **Every call through the registry of this library has one of the three ends.** -/
theorem step (context : Context) (name : String) (arguments : List Value) (strict : Bool)
    (query : Query) :
    Step context.timestamp name arguments query
      (standard.invoke context name arguments strict query) := by
  cases found : standard.find? name with
  | none =>
      rw [invoke_of_find?_eq_none found]
      exact .idle fun _ _ => nofun
  | some builtin =>
      rw [invoke_of_find? found]
      have fails {error : BuiltinError} (value : Value)
          (settled : settle context strict (.error error) = .ok value) : value = .undefined :=
        (settle_eq_ok settled).resolve_left nofun
      cases checked : check name builtin.metadata.declaration arguments with
      | error error =>
          rw [checkAndPerform_of_check_eq_error checked]
          exact .idle fun _ => fails
      | ok _ =>
          rw [checkAndPerform_of_check_eq_ok checked]
          have counted := length_eq_of_check_eq_ok (standard_sound name builtin found).fixed checked
          rcases perform_cases context name builtin arguments query with ⟨fresh, same⟩ |
            ⟨kept, value, known, same⟩ | ⟨kept, missing, ⟨value, after, ran, same⟩ |
              ⟨error, after, ran, same⟩⟩
          · have other : name ∉ drawing := by
              rw [← isKept_iff found, fresh]
              exact Bool.false_ne_true
            obtain ⟨events, quiet⟩ :=
              @exists_events_of_not_mem_drawing context name builtin arguments query found other
                counted
            rw [same, quiet]
            exact .idle fun drawn => absurd drawn other
          · rw [same]
            exact .repeated ⟨(isKept_iff found).mp kept, builtin, found, checked⟩ known
          -- In both remaining cases the builtin ran, and it is one that draws.
          all_goals
            have listed := (isKept_iff found).mp kept
            have drew := @drew_of_mem_drawing context name builtin arguments query found listed
              counted
            rw [ran] at drew
            rw [same]
          · rcases drew with ⟨drawn, generator, draws, result⟩ | ⟨_, _, result⟩
            · cases result
              rw [Cache.put_of_get?_eq_none missing]
              exact .drawn ⟨listed, builtin, found, checked⟩ missing draws
            · cases result
          · rcases drew with ⟨_, _, _, result⟩ | ⟨_, _, result⟩
            · cases result
            · cases result
              exact .idle fun _ => fails

end Registry

end Rego
