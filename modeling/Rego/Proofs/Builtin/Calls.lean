import Mathlib.Data.List.Forall2
import Mathlib.Data.Set.List
import Rego.Proofs.Builtin.Outcomes

/-!
# What a call comes to

A call by a known name is the checked run of that builtin, settled at the place of the call
(`invoke_of_find?`). A checked call repeats a kept result or runs the implementation
(`perform_cases`). A call of a builtin whose results are not kept is the run of its implementation
on arguments that fit its declaration, and leaves the query alone when the implementation looks at
nothing but the arguments (`invoke_plain`). Arguments fit a declaration when they are as many as
declared and each is allowed in its place (`check_of_allows`); values of any kind fit an argument
without a type (`admits_anything`).

What such a call comes to depends on nothing around it: it gives one value (`Gives`), or it fails
for one cause (`Fails`).
-/

namespace Rego

set_option autoImplicit false

namespace Ty

/-- An argument without a type takes every value. -/
@[simp] theorem admits_anything (name : String) (text : Option String) (value : Value) :
    (Ty.named name text (.any [])).admits value = true := by
  simp only [admits, List.isEmpty_nil, Bool.true_or]

/-- Names are transparent. -/
theorem Allows.named {type : Ty} {value : Value} (allowed : type.Allows value) (name : String)
    (text : Option String) : (Ty.named name text type).Allows value := by
  rcases allowed with undefined | admitted
  · exact .inl undefined
  · exact .inr (by rw [admits, admitted])

end Ty

/-- Values among which there are none of another kind are made by the constructor of the kind. -/
theorem Value.exists_map_of_kind {Content : Type} {wrap : Content → Value} {kind : Value.Kind}
    (unwrap : ∀ value : Value, value.kind = kind → ∃ content, wrap content = value)
    {values : List Value} (only : ¬∃ value ∈ values, value.kind ≠ kind) :
    ∃ contents : List Content, contents.map wrap = values := by
  have all : values ∈ Set.range (List.map wrap) := by
    rw [Set.range_list_map]
    exact fun value within => unwrap value (by_contra fun other => only ⟨value, within, other⟩)
  exact all

namespace Registry

variable {registry : Registry} {context : Context} {name : String} {arguments : List Value}
  {strict : Bool} {query : Query} {builtin : Builtin}

/-! ## Names -/

/-- A builtin that was added is the one of its name. -/
theorem find?_add (registry : Registry) (name : String) (builtin : Builtin) :
    (registry.add name builtin).find? name = some builtin := by
  have others : List.find? (fun entry : Entry => entry.name == name)
      (List.filter (fun entry : Entry => entry.name != name) registry) = none := by
    refine List.find?_eq_none.mpr fun entry member => ?_
    simpa using (List.mem_filter.mp member).2
  simp [find?, add, List.find?_append, others]

theorem invoke_of_find?_eq_none (unknown : registry.find? name = none) :
    registry.invoke context name arguments strict query = (.error (.unknown name), query) := by
  unfold invoke
  rw [unknown]

/-- A call by a known name is the checked run of that builtin, settled at the place of the call. -/
theorem invoke_of_find? (found : registry.find? name = some builtin) :
    registry.invoke context name arguments strict query =
      (settle context strict (checkAndPerform context name builtin arguments query).1,
        (checkAndPerform context name builtin arguments query).2) := by
  unfold invoke
  rw [found]

theorem checkAndPerform_of_check_eq_ok
    (checked : check name builtin.metadata.declaration arguments = .ok ()) :
    checkAndPerform context name builtin arguments query =
      perform context name builtin arguments query := by
  unfold checkAndPerform
  rw [checked]

theorem checkAndPerform_of_check_eq_error {error : BuiltinError}
    (refused : check name builtin.metadata.declaration arguments = .error error) :
    checkAndPerform context name builtin arguments query = (.error error, query) := by
  unfold checkAndPerform
  rw [refused]

/-! ## Kept results -/

theorem perform_of_not_kept (fresh : isKept name builtin.metadata = false) :
    perform context name builtin arguments query =
      builtin.implementation.run context arguments query := by
  simp only [perform, fresh, Bool.false_eq_true, if_false]

theorem perform_of_get?_eq_some {value : Value} (kept : isKept name builtin.metadata = true)
    (known : query.cache.get? name arguments = some value) :
    perform context name builtin arguments query = (.ok value, query) := by
  simp only [perform, kept, if_true, known]

theorem perform_of_run_eq_ok {value : Value} {after : Query}
    (kept : isKept name builtin.metadata = true)
    (missing : query.cache.get? name arguments = none)
    (ran : builtin.implementation.run context arguments query = (.ok value, after)) :
    perform context name builtin arguments query =
      (.ok value, { after with cache := after.cache.put name arguments value }) := by
  simp only [perform, kept, if_true, missing, ran]

theorem perform_of_run_eq_error {error : BuiltinError} {after : Query}
    (missing : query.cache.get? name arguments = none)
    (ran : builtin.implementation.run context arguments query = (.error error, after)) :
    perform context name builtin arguments query = (.error error, after) := by
  simp only [perform, missing, ran, ite_self]

/-- **A checked call repeats a kept result, or runs the builtin and may keep what it gives.** -/
theorem perform_cases (context : Context) (name : String) (builtin : Builtin)
    (arguments : List Value) (query : Query) :
    (isKept name builtin.metadata = false ∧ perform context name builtin arguments query =
      builtin.implementation.run context arguments query) ∨
    (isKept name builtin.metadata = true ∧ ∃ value, query.cache.get? name arguments = some value ∧
      perform context name builtin arguments query = (.ok value, query)) ∨
    (isKept name builtin.metadata = true ∧ query.cache.get? name arguments = none ∧
      ((∃ value after, builtin.implementation.run context arguments query = (.ok value, after) ∧
        perform context name builtin arguments query =
          (.ok value, { after with cache := after.cache.put name arguments value })) ∨
      ∃ error after, builtin.implementation.run context arguments query = (.error error, after) ∧
        perform context name builtin arguments query = (.error error, after))) := by
  cases kept : isKept name builtin.metadata with
  | false => exact .inl ⟨rfl, perform_of_not_kept kept⟩
  | true =>
      refine .inr ?_
      cases known : query.cache.get? name arguments with
      | some value => exact .inl ⟨rfl, value, rfl, perform_of_get?_eq_some kept known⟩
      | none =>
          refine .inr ⟨rfl, rfl, ?_⟩
          cases ran : builtin.implementation.run context arguments query with
          | mk outcome after =>
              cases outcome with
              | ok value => exact .inl ⟨value, after, rfl, perform_of_run_eq_ok kept known ran⟩
              | error error => exact .inr ⟨error, after, rfl, perform_of_run_eq_error known ran⟩

/-! ## Calls of plain builtins -/

/-- Arguments that are as many as declared and each of the declared type pass the check. -/
theorem check_ok {signature : Signature} (count : countFits signature arguments.length = true)
    (types : misfit? signature 0 arguments = none) : check name signature arguments = .ok () := by
  unfold check
  rw [if_pos count, types]

/-- Arguments that are allowed one by one hold no misfit. -/
theorem misfit?_eq_none {signature : Signature} {types front : List Ty}
    (declared : signature.arguments = front ++ types)
    (allowed : List.Forall₂ Ty.Allows types arguments) :
    misfit? signature front.length arguments = none := by
  induction allowed generalizing front with
  | nil => rfl
  | @cons type argument types rest allows _ ih =>
      have expects : signature.argument? front.length = some type := by
        simp [Signature.argument?, declared]
      have accepted : (argument.isUndefined || type.admits argument) = true := by
        rcases allows with rfl | admitted
        · rfl
        · rw [admitted, Bool.or_true]
      have later : misfit? signature (front ++ [type]).length rest = none :=
        ih (by rw [declared, List.append_assoc, List.singleton_append])
      rw [List.length_append] at later
      rw [misfit?, expects]
      exact (if_pos accepted).trans later

/-- **Arguments that are allowed one by one pass the check.** -/
theorem check_of_allows {signature : Signature}
    (allowed : List.Forall₂ Ty.Allows signature.arguments arguments) :
    check name signature arguments = .ok () := by
  have count : countFits signature arguments.length = true := by
    rw [countFits, allowed.length_eq]
    simp
  exact check_ok count (@misfit?_eq_none arguments signature _ [] rfl allowed)

/-- **A call of a plain builtin runs it on the arguments and leaves the query alone.** -/
theorem invoke_plain {metadata : Metadata} {run : List Value → Outcome}
    (found : registry.find? name = some ⟨metadata, .plain run⟩)
    (checked : check name metadata.declaration arguments = .ok ())
    (fresh : isKept name metadata = false) :
    registry.invoke context name arguments strict query =
      (settle context strict (run arguments), query) := by
  rw [invoke_of_find? found, checkAndPerform_of_check_eq_ok checked]
  rw [perform_of_not_kept fresh]
  rfl

/-! ## Calls with one answer -/

/-- A call of a builtin of this library gives a value, wherever and in whatever mode it is made, and
leaves the query alone. -/
def Gives (name : String) (arguments : List Value) (value : Value) : Prop :=
  ∀ (context : Context) (strict : Bool) (query : Query),
    standard.invoke context name arguments strict query = (.ok value, query)

/-- A call of a builtin of this library fails in the ordinary way and leaves the query alone: a
strict call reports the cause and the place, any other has no value. -/
def Fails (name : String) (arguments : List Value) (cause : Cause) : Prop :=
  ∀ (context : Context) (query : Query),
    standard.invoke context name arguments true query =
      (.error (.failed ⟨.ordinary, name, cause, context.location⟩), query) ∧
    standard.invoke context name arguments false query = (.ok .undefined, query)

theorem Gives.unique {value other : Value} (one : Gives name arguments value)
    (two : Gives name arguments other) : value = other := by
  have both := (one ⟨none, false, 0⟩ true ⟨[], .cycling [1], []⟩).symm.trans
    (two ⟨none, false, 0⟩ true ⟨[], .cycling [1], []⟩)
  cases both
  rfl

theorem Fails.not_gives {cause : Cause} (fails : Fails name arguments cause) (value : Value) :
    ¬Gives name arguments value := by
  intro gives
  have both := (gives ⟨none, false, 0⟩ true ⟨[], .cycling [1], []⟩).symm.trans
    (fails ⟨none, false, 0⟩ ⟨[], .cycling [1], []⟩).1
  cases both

section Plain

variable {metadata : Metadata} {run : List Value → Outcome}
  (found : standard.find? name = some ⟨metadata, .plain run⟩)

include found

/-- A plain builtin gives what it computes from arguments that fit its declaration. -/
theorem gives_of_run (fresh : isKept name metadata = false)
    (checked : check name metadata.declaration arguments = .ok ()) {value : Value}
    (ran : run arguments = .ok value) : Gives name arguments value := by
  intro context strict query
  rw [invoke_plain found checked fresh, ran]
  rfl

/-- A plain builtin fails for the cause of its computation on arguments that fit its declaration. -/
theorem fails_of_run (fresh : isKept name metadata = false)
    (checked : check name metadata.declaration arguments = .ok ()) {cause : Cause}
    (ran : run arguments = failed name cause) : Fails name arguments cause := by
  intro context query
  rw [invoke_plain found checked fresh, invoke_plain found checked fresh, ran]
  exact ⟨rfl, rfl⟩

/-- A plain builtin fails on arguments that its declaration refuses. -/
theorem fails_of_check {cause : Cause}
    (refused : check name metadata.declaration arguments = failed name cause) :
    Fails name arguments cause := by
  intro context query
  rw [invoke_of_find? found, invoke_of_find? found, checkAndPerform_of_check_eq_error refused]
  exact ⟨rfl, rfl⟩

/-- Where the computation fails on as many arguments as declared, the call fails, be it for the
cause of the computation or because the declaration refuses the arguments. -/
theorem exists_fails_of_run (fresh : isKept name metadata = false)
    (count : countFits metadata.declaration arguments.length = true)
    (ran : ∃ cause, run arguments = failed name cause) : ∃ cause, Fails name arguments cause := by
  cases misfit : misfit? metadata.declaration 0 arguments with
  | none =>
      obtain ⟨cause, ran⟩ := ran
      exact ⟨cause, fails_of_run found fresh (check_ok count misfit) ran⟩
  | some refused =>
      obtain ⟨position, expected, argument⟩ := refused
      refine ⟨.undeclaredType (position + 1) expected argument, fails_of_check found ?_⟩
      rw [check, if_pos count, misfit]

end Plain

end Registry

end Rego
