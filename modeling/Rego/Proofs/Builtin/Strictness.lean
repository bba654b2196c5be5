import Rego.Proofs.Builtin.Calls

/-!
# Strict and lenient calls

A strict call and a lenient one do the same and differ only in what becomes of an ordinary failure
(`reclassified_settle`). Both first check the arguments against the declaration of the builtin, and
this check has three ends: the number of arguments is wrong, an argument is refused, which is then
the first such, or all arguments fit (`check_cases`). Only in the last case the implementation is
run, so that no other implementation in its place makes a difference in the first two. The main
statement collects what this says about any call of any registry
(`strictness_only_reclassifies`).
-/

namespace Rego

set_option autoImplicit false

/-! ## Arguments and declarations -/

namespace Signature

/-- Arguments are not as many as a signature asks for. -/
def Miscounts (signature : Signature) (arguments : List Value) : Prop :=
  match signature.variadic with
  | none => arguments.length ≠ signature.arguments.length
  | some _ => arguments.length < signature.arguments.length

/-- An argument is undefined or of the type of its position. -/
def Accepts (signature : Signature) (position : Nat) (argument : Value) : Prop :=
  argument.isUndefined = true ∨
    ∃ expected, signature.argument? position = some expected ∧ expected.admits argument = true

/-- Every argument is undefined or of the type of its position. -/
def Fits (signature : Signature) (arguments : List Value) : Prop :=
  ∀ position argument, arguments[position]? = some argument → signature.Accepts position argument

/-- An argument is defined and not of the type of its position, and those before it fit. -/
structure FirstMisfit (signature : Signature) (arguments : List Value) (position : Nat)
    (expected : Ty) (argument : Value) : Prop where
  found : arguments[position]? = some argument
  defined : argument.isUndefined = false
  expects : signature.argument? position = some expected
  refused : expected.admits argument = false
  earlier : ∀ before < position, ∀ other, arguments[before]? = some other →
    signature.Accepts before other

theorem FirstMisfit.not_fits {signature : Signature} {arguments : List Value} {position : Nat}
    {expected : Ty} {argument : Value}
    (misfit : signature.FirstMisfit arguments position expected argument) :
    ¬signature.Fits arguments := by
  intro fits
  rcases fits position argument misfit.found with undefined | ⟨type, expects, admitted⟩
  · exact absurd undefined (by simp [misfit.defined])
  · rw [misfit.expects] at expects
    cases expects
    exact absurd admitted (by simp [misfit.refused])

theorem countFits_iff (signature : Signature) (arguments : List Value) :
    Registry.countFits signature arguments.length = true ↔ ¬signature.Miscounts arguments := by
  unfold Registry.countFits Miscounts
  cases signature.variadic with
  | none => simp
  | some type => simp

/-- With the right number of arguments there is a type for each of them. -/
theorem exists_argument? {signature : Signature} {arguments : List Value}
    (counted : ¬signature.Miscounts arguments) {position : Nat}
    (inside : position < arguments.length) :
    ∃ expected, signature.argument? position = some expected := by
  unfold argument?
  cases listed : signature.arguments[position]? with
  | some type => exact ⟨type, rfl⟩
  | none =>
      have past := List.getElem?_eq_none_iff.mp listed
      unfold Miscounts at counted
      cases variadic : signature.variadic with
      | some type => exact ⟨type, rfl⟩
      | none =>
          rw [variadic] at counted
          have same : arguments.length = signature.arguments.length := Decidable.not_not.mp counted
          omega

end Signature

namespace Registry

open Signature

/-! ## The check -/

/-- Where every position has a type, the search for a misfit finds none because all arguments are
accepted, or finds the first that is not. -/
theorem misfit?_cases {signature : Signature} : ∀ (arguments : List Value) (start : Nat),
    (∀ index < arguments.length, ∃ expected, signature.argument? (start + index) = some expected) →
    (misfit? signature start arguments = none ∧
      ∀ index argument, arguments[index]? = some argument →
        signature.Accepts (start + index) argument) ∨
    ∃ index expected argument,
      misfit? signature start arguments = some (start + index, expected, argument) ∧
      arguments[index]? = some argument ∧ argument.isUndefined = false ∧
      signature.argument? (start + index) = some expected ∧ expected.admits argument = false ∧
      ∀ before < index, ∀ other, arguments[before]? = some other →
        signature.Accepts (start + before) other
  | [], _, _ => .inl ⟨rfl, nofun⟩
  | first :: rest, start, typed => by
      obtain ⟨type, expects⟩ := typed 0 (by simp)
      rw [Nat.add_zero] at expects
      have later : ∀ index < rest.length,
          ∃ expected, signature.argument? (start + 1 + index) = some expected := by
        intro index inside
        obtain ⟨expected, found⟩ := typed (index + 1) (by simpa using inside)
        exact ⟨expected, by rw [← found]; congr 1; omega⟩
      by_cases accepted : (first.isUndefined || type.admits first) = true
      · have here : signature.Accepts start first :=
          (Bool.or_eq_true_iff.mp accepted).imp_right fun admitted => ⟨type, expects, admitted⟩
        have skip : misfit? signature start (first :: rest) =
            misfit? signature (start + 1) rest := by
          simp only [misfit?, expects, accepted, if_true]
        have shift (index : Nat) : start + 1 + index = start + (index + 1) := by omega
        rcases misfit?_cases rest (start + 1) later with ⟨none, all⟩ | ⟨index, expected, argument,
          some, found, defined, asks, refused, before⟩
        · refine .inl ⟨skip.trans none, fun index argument found => ?_⟩
          cases index with
          | zero => cases found; exact here
          | succ index => rw [← shift]; exact all index argument found
        · refine .inr ⟨index + 1, expected, argument, ?_, found, defined, ?_, refused, ?_⟩
          · rw [skip, some, shift]
          · rw [← shift]; exact asks
          · intro earlier less other present
            cases earlier with
            | zero => cases present; exact here
            | succ earlier => rw [← shift]; exact before earlier (by omega) other present
      · refine .inr ⟨0, type, first, ?_, rfl, ?_, expects, ?_, by simp⟩
        · simp only [misfit?, expects, accepted, Bool.false_eq_true, if_false, Nat.add_zero]
        · exact (Bool.or_eq_false_iff.mp (Bool.eq_false_iff.mpr accepted)).1
        · exact (Bool.or_eq_false_iff.mp (Bool.eq_false_iff.mpr accepted)).2

/-- **The check of arguments has three ends.** -/
theorem check_cases (name : String) (signature : Signature) (arguments : List Value) :
    (signature.Miscounts arguments ∧ check name signature arguments =
      .error (.halting name (.undeclaredCount signature.arguments.length arguments.length))) ∨
    (¬signature.Miscounts arguments ∧ signature.Fits arguments ∧
      check name signature arguments = .ok ()) ∨
    (¬signature.Miscounts arguments ∧ ∃ position expected argument,
      signature.FirstMisfit arguments position expected argument ∧
      check name signature arguments =
        .error (.ordinary name (.undeclaredType (position + 1) expected argument))) := by
  by_cases counted : signature.Miscounts arguments
  · refine .inl ⟨counted, if_neg fun fits => ?_⟩
    exact (countFits_iff signature arguments).mp fits counted
  · have fits := (countFits_iff signature arguments).mpr counted
    have typed : ∀ index < arguments.length,
        ∃ expected, signature.argument? (0 + index) = some expected := by
      intro index inside
      rw [Nat.zero_add]
      exact exists_argument? counted inside
    refine .inr ?_
    rcases misfit?_cases arguments 0 typed with ⟨none, all⟩ | ⟨index, expected, argument, some,
      found, defined, expects, refused, earlier⟩
    · refine .inl ⟨counted, fun position argument found => ?_, check_ok fits none⟩
      rw [← Nat.zero_add position]
      exact all position argument found
    · simp only [Nat.zero_add] at some expects earlier
      refine .inr ⟨counted, index, expected, argument,
        ⟨found, defined, expects, refused, earlier⟩, ?_⟩
      rw [check, if_pos fits, some]
      rfl

theorem exists_check_eq_error (name : String) {signature : Signature} {arguments : List Value}
    (unfit : signature.Miscounts arguments ∨ ¬signature.Fits arguments) :
    ∃ error, check name signature arguments = .error error := by
  rcases check_cases name signature arguments with ⟨_, refused⟩ | ⟨counted, fits, _⟩ |
    ⟨_, _, _, _, _, refused⟩
  · exact ⟨_, refused⟩
  · exact absurd fits (unfit.resolve_left counted)
  · exact ⟨_, refused⟩

/-! ## Both modes -/

/-- What the answer to a lenient call is when the strict one is given. -/
inductive Reclassified : Except CallError Value → Except CallError Value → Prop where
  | unknown (name : String) : Reclassified (.error (.unknown name)) (.error (.unknown name))
  | value (value : Value) : Reclassified (.ok value) (.ok value)
  | halting {error : BuiltinError} (severity : error.severity = .halting) :
      Reclassified (.error (.failed error)) (.error (.failed error))
  | aborting {error : BuiltinError} (severity : error.severity = .aborting) :
      Reclassified (.error (.failed error)) (.error (.failed error))
  | ordinary {error : BuiltinError} (severity : error.severity = .ordinary) :
      Reclassified (.error (.failed error)) (.ok .undefined)

theorem reclassified_settle (context : Context) (outcome : Outcome) :
    Reclassified (settle context true outcome) (settle context false outcome) := by
  cases outcome with
  | ok value => exact .value value
  | error error =>
      cases severity : error.severity with
      | halting =>
          have halts : error.isHalting = true := by simp [BuiltinError.isHalting, severity]
          simp only [settle, halts, Bool.true_or, if_true]
          exact .halting severity
      | aborting =>
          have aborts : error.isAborting = true := by simp [BuiltinError.isAborting, severity]
          simp only [settle, aborts, Bool.or_true, Bool.true_or, if_true]
          exact .aborting severity
      | ordinary =>
          have goes : error.isHalting = false := by simp [BuiltinError.isHalting, severity]
          have survives : error.isAborting = false := by simp [BuiltinError.isAborting, severity]
          simp only [settle, goes, survives, Bool.false_or, if_true, Bool.false_eq_true, if_false]
          exact .ordinary severity

variable {context : Context} {name : String} {builtin : Builtin} {arguments : List Value}
  {query : Query}

theorem settle_eq_error {strict : Bool} {outcome : Outcome} {error : BuiltinError}
    (failed : settle context strict outcome = .error (.failed error)) :
    ∃ own, outcome = .error own ∧ error = own.located context.location := by
  cases outcome with
  | ok value => cases failed
  | error own =>
      simp only [settle] at failed
      split at failed
      · cases failed
        exact ⟨own, rfl, rfl⟩
      · cases failed

theorem settle_eq_ok {strict : Bool} {outcome : Outcome} {value : Value}
    (settled : settle context strict outcome = .ok value) :
    outcome = .ok value ∨ value = .undefined := by
  cases outcome with
  | ok given =>
      cases settled
      exact .inl rfl
  | error own =>
      simp only [settle] at settled
      split at settled
      · cases settled
      · cases settled
        exact .inr rfl

theorem settle_of_halting (context : Context) (strict : Bool) {own : BuiltinError}
    (halts : own.severity = .halting) :
    settle context strict (.error own) = .error (.failed (own.located context.location)) := by
  simp [settle, BuiltinError.isHalting, halts]

theorem settle_lenient_of_ordinary (context : Context) {own : BuiltinError}
    (goes : own.severity = .ordinary) : settle context false (.error own) = .ok .undefined := by
  simp [settle, BuiltinError.isHalting, BuiltinError.isAborting, goes]

/-- A failing call fails in the check of its arguments or in the implementation. -/
theorem checkAndPerform_eq_error {own : BuiltinError}
    (failed : (checkAndPerform context name builtin arguments query).1 = .error own) :
    check name builtin.metadata.declaration arguments = .error own ∨
      check name builtin.metadata.declaration arguments = .ok () ∧
        (builtin.implementation.run context arguments query).1 = .error own := by
  cases checked : check name builtin.metadata.declaration arguments with
  | error error =>
      rw [checkAndPerform_of_check_eq_error checked] at failed
      cases failed
      exact .inl rfl
  | ok _ =>
      refine .inr ⟨rfl, ?_⟩
      rw [checkAndPerform_of_check_eq_ok checked] at failed
      rcases perform_cases context name builtin arguments query with ⟨_, same⟩ |
        ⟨_, value, _, same⟩ | ⟨_, _, ⟨value, after, _, same⟩ | ⟨error, after, ran, same⟩⟩
      · rw [← same]
        exact failed
      · rw [same] at failed
        cases failed
      · rw [same] at failed
        cases failed
      · rw [same] at failed
        rw [ran]
        exact failed

/-- What holds of one call, made strictly and leniently on the same query. -/
structure OnlyReclassifies (registry : Registry) (context : Context) (name : String)
    (arguments : List Value) (query : Query) : Prop where
  /-- A name without a builtin is reported in both modes. -/
  unknown : registry.find? name = none → ∀ strict,
    registry.invoke context name arguments strict query = (.error (.unknown name), query)
  /-- A wrong number of arguments halts in both modes. -/
  miscounted : ∀ builtin, registry.find? name = some builtin →
    builtin.metadata.declaration.Miscounts arguments → ∀ strict,
    registry.invoke context name arguments strict query =
      (.error (.failed ⟨.halting, name,
        .undeclaredCount builtin.metadata.declaration.arguments.length arguments.length,
        context.location⟩), query)
  /-- The first argument that does not fit is reported as an ordinary failure. -/
  misfit : ∀ builtin, registry.find? name = some builtin →
    ¬builtin.metadata.declaration.Miscounts arguments →
    ¬builtin.metadata.declaration.Fits arguments →
    ∃ position expected argument,
      builtin.metadata.declaration.FirstMisfit arguments position expected argument ∧
      registry.invoke context name arguments true query =
        (.error (.failed ⟨.ordinary, name, .undeclaredType (position + 1) expected argument,
          context.location⟩), query)
  /-- Arguments that do not fit are not seen by the implementation: any other one in its place
  makes the same call. -/
  unseen : ∀ builtin, registry.find? name = some builtin →
    builtin.metadata.declaration.Miscounts arguments ∨
      ¬builtin.metadata.declaration.Fits arguments →
    ∀ implementation strict,
      (registry.add name ⟨builtin.metadata, implementation⟩).invoke context name arguments strict
        query = registry.invoke context name arguments strict query
  /-- The answers differ in ordinary failures only. -/
  answers : Reclassified (registry.invoke context name arguments true query).1
    (registry.invoke context name arguments false query).1
  /-- The query is the same afterwards. -/
  queries : (registry.invoke context name arguments true query).2 =
    (registry.invoke context name arguments false query).2
  /-- A failure is that of the check or of the implementation, and keeps its place or else takes
  that of the call. -/
  located : ∀ strict error,
    (registry.invoke context name arguments strict query).1 = .error (.failed error) →
    ∃ builtin own, registry.find? name = some builtin ∧
      (check name builtin.metadata.declaration arguments = .error own ∨
        (builtin.implementation.run context arguments query).1 = .error own) ∧
      error = { own with location := own.location.or context.location }

/-- **Strictness only reclassifies failures, and implementations see only arguments that fit.** -/
theorem strictness_only_reclassifies (registry : Registry) (context : Context) (name : String)
    (arguments : List Value) (query : Query) :
    OnlyReclassifies registry context name arguments query := by
  constructor
  case unknown => exact fun unknown strict => invoke_of_find?_eq_none unknown
  case miscounted =>
    intro builtin found miscounted strict
    rcases check_cases name builtin.metadata.declaration arguments with ⟨_, refused⟩ | ⟨counted, _⟩ |
      ⟨counted, _⟩
    · rw [invoke_of_find? found, checkAndPerform_of_check_eq_error refused]
      rfl
    · exact absurd miscounted counted
    · exact absurd miscounted counted
  case misfit =>
    intro builtin found counted unfit
    rcases check_cases name builtin.metadata.declaration arguments with ⟨miscounted, _⟩ |
      ⟨_, fits, _⟩ | ⟨_, position, expected, argument, misfit, refused⟩
    · exact absurd miscounted counted
    · exact absurd fits unfit
    · refine ⟨position, expected, argument, misfit, ?_⟩
      rw [invoke_of_find? found, checkAndPerform_of_check_eq_error refused]
      rfl
  case unseen =>
    intro builtin found unfit implementation strict
    obtain ⟨error, refused⟩ := exists_check_eq_error name unfit
    have other : checkAndPerform context name ⟨builtin.metadata, implementation⟩ arguments query =
        (.error error, query) := checkAndPerform_of_check_eq_error refused
    rw [invoke_of_find? found, invoke_of_find? (find?_add registry name _), other,
      checkAndPerform_of_check_eq_error refused]
  case answers =>
    cases found : registry.find? name with
    | none => simpa only [invoke_of_find?_eq_none found] using .unknown name
    | some builtin => simpa only [invoke_of_find? found] using reclassified_settle context _
  case queries =>
    cases found : registry.find? name with
    | none => simp only [invoke_of_find?_eq_none found]
    | some builtin => simp only [invoke_of_find? found]
  case located =>
    intro strict error failed
    cases found : registry.find? name with
    | none => rw [invoke_of_find?_eq_none found] at failed; cases failed
    | some builtin =>
        rw [invoke_of_find? found] at failed
        obtain ⟨own, raised, rfl⟩ := settle_eq_error failed
        exact ⟨builtin, own, rfl, (checkAndPerform_eq_error raised).imp_right And.right, rfl⟩

/-- A builtin of a text and any number of numbers that fails at a place of its own. -/
def failing : Builtin :=
  ⟨.new "host.fail" ⟨[.string], none, some .number⟩,
    .plain fun _ => .error ⟨.ordinary, "host.fail", .host "nope", some ⟨"own.rego", 1, 2⟩⟩⟩

/-- No arguments, a misfit past the listed arguments, and a failure of the implementation. -/
theorem strictness_only_reclassifies_variadic :
    (let registry := Registry.add [] "host.fail" failing
      let context : Context := ⟨some ⟨"policy.rego", 3, 7⟩, false, 0⟩
      let query : Query := ⟨[], .cycling [1], []⟩
      registry.invoke context "host.fail" [] false query =
        (.error (.failed ⟨.halting, "host.fail", .undeclaredCount 1 0,
          some ⟨"policy.rego", 3, 7⟩⟩), query) ∧
      (∃ position expected argument,
        failing.metadata.declaration.FirstMisfit [.string "x", .undefined, .null] position expected
          argument ∧
        registry.invoke context "host.fail" [.string "x", .undefined, .null] true query =
          (.error (.failed ⟨.ordinary, "host.fail",
            .undeclaredType (position + 1) expected argument, some ⟨"policy.rego", 3, 7⟩⟩),
            query)) ∧
      Reclassified
        (.error (.failed ⟨.ordinary, "host.fail", .host "nope", some ⟨"own.rego", 1, 2⟩⟩))
        (registry.invoke context "host.fail" [.string "x"] false query).1) := by
  have laws := strictness_only_reclassifies (Registry.add [] "host.fail" failing)
    ⟨some ⟨"policy.rego", 3, 7⟩, false, 0⟩ "host.fail"
  refine ⟨(laws [] _).miscounted failing rfl (by decide : 0 < 1) false,
    (laws _ _).misfit failing rfl (by decide : ¬3 < 1) ?_, (laws [.string "x"] _).answers⟩
  have misfit : failing.metadata.declaration.FirstMisfit [.string "x", .undefined, .null] 2 .number
      .null := by
    refine ⟨rfl, rfl, rfl, rfl, fun before less other found => ?_⟩
    match before, less with
    | 0, _ => cases found; exact .inr ⟨.string, rfl, rfl⟩
    | 1, _ => cases found; exact .inl rfl
  exact misfit.not_fits

end Registry

end Rego
