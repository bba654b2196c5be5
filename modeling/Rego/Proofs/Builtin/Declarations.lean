import Rego.Proofs.Builtin.Arithmetic
import Rego.Proofs.Builtin.Cache
import Rego.Proofs.Builtin.Collections
import Rego.Proofs.Builtin.Effects
import Rego.Proofs.Builtin.Ordering
import Rego.Proofs.Builtin.Strictness
import Rego.Proofs.Builtin.Texts

/-!
# Builtins keep to their declarations

A registry is sound when all its builtins are, each unless it is overtaxed, and the registry of this
library is (`standard_sound`). A call through a sound registry with the declared number of arguments
comes to a value or an ordinary failure or overtaxes the builtin, and any other number of arguments
halts the evaluation (`checkAndPerform_cases`). A value has the declared type as long as the kept
results have theirs, and they do if only calls of the registry kept them (`typed_of_filled`). So the
declarations can be relied on: for the type of a result (`result_admitted`) and for what may halt an
evaluation (`halts_iff_miscounted`). They do not say which arguments a builtin survives
(`not_all_lenient_calls_answered`).
-/

namespace Rego

set_option autoImplicit false

/-- With a fixed number of arguments any other number is wrong. -/
theorem Metadata.miscounts_iff {metadata : Metadata} (fixed : metadata.isVariadic = false)
    (arguments : List Value) :
    metadata.declaration.Miscounts arguments ↔ arguments.length ≠ metadata.arity := by
  have none : metadata.declaration.variadic = none := by
    rw [← Option.not_isSome_iff_eq_none]
    exact Bool.eq_false_iff.mp fixed
  unfold Signature.Miscounts
  rw [none]
  rfl

theorem Metadata.not_miscounts_iff {metadata : Metadata} (fixed : metadata.isVariadic = false)
    (arguments : List Value) :
    ¬metadata.declaration.Miscounts arguments ↔ arguments.length = metadata.arity := by
  rw [miscounts_iff fixed, Decidable.not_not]

namespace Registry

/-! ## Sound registries -/

/-- Every builtin of a registry is sound, unless it is overtaxed. -/
def Sound (registry : Registry) (overtaxes : String → List Value → Cause → Prop) : Prop :=
  ∀ name builtin, registry.find? name = some builtin → builtin.SoundUnless (overtaxes name)

theorem mem_of_standard_find? {name : String} {builtin : Builtin}
    (found : standard.find? name = some builtin) :
    builtin ∈ builtins ∧ builtin.metadata.name = name := by
  obtain ⟨entry, first, rfl⟩ := Option.map_eq_some_iff.mp found
  obtain ⟨builtin, member, rfl⟩ := List.mem_map.mp (List.mem_of_find?_eq_some first)
  exact ⟨member, by simpa using List.find?_some first⟩

/-- **Every builtin of this library is sound, unless it is overtaxed.** -/
theorem standard_sound : standard.Sound Overtaxes := by
  intro name builtin found
  obtain ⟨member, rfl⟩ := mem_of_standard_find? found
  have always (sound : builtin.Sound) : builtin.SoundUnless (Overtaxes builtin.metadata.name) :=
    sound.mono fun _ _ => False.elim
  simp only [builtins, List.mem_append] at member
  rcases member with (((((arithmetic | ordering) | collections) | strings) | conversions) |
    encodings) | effects
  · exact always (Builtin.Arithmetic.sound_of_mem_builtins builtin arithmetic)
  · exact always (Builtin.Ordering.sound_of_mem_builtins builtin ordering)
  · exact always (Builtin.Collections.sound_of_mem_builtins builtin collections)
  · exact Builtin.Strings.sound_of_mem_builtins builtin strings
  · exact Builtin.Conversions.sound_of_mem_builtins builtin conversions
  · exact always (Builtin.Encodings.sound_of_mem_builtins builtin encodings)
  · exact always (Builtin.Effects.sound_of_mem_builtins builtin effects)

variable {registry : Registry} {context : Context} {name : String} {builtin : Builtin}
  {arguments : List Value} {strict : Bool} {query : Query} {value : Value} {good : Value → Prop}
  {overtaxes : List Value → Cause → Prop} {overtaxing : String → List Value → Cause → Prop}

/-! ## Calls of sound builtins -/

/-- Arguments that pass the check for a fixed number of them are as many as declared. -/
theorem length_eq_of_check_eq_ok (fixed : builtin.metadata.isVariadic = false)
    (checked : check name builtin.metadata.declaration arguments = .ok ()) :
    arguments.length = builtin.metadata.arity := by
  refine (Metadata.not_miscounts_iff fixed arguments).mp ?_
  rcases check_cases name builtin.metadata.declaration arguments with ⟨_, refused⟩ |
    ⟨counted, _⟩ | ⟨counted, _⟩
  · rw [checked] at refused
    cases refused
  · exact counted
  · exact counted

/-- A checked call of a sound builtin yields promised values or kept ones, or overtaxes it. -/
theorem yields_perform (sound : builtin.SoundUnless overtaxes)
    (counted : arguments.length = builtin.metadata.arity)
    (promised : ∀ value, builtin.metadata.Promises value → good value)
    (kept : ∀ value, query.cache.get? name arguments = some value → good value) :
    Yields good (perform context name builtin arguments query).1 ∨
      ∃ cause, overtaxes arguments cause ∧
        (perform context name builtin arguments query).1 =
          aborted builtin.metadata.name cause := by
  have returns := (sound.returns context arguments query counted).imp_left fun yields =>
    yields.mono promised
  rcases perform_cases context name builtin arguments query with ⟨_, same⟩ |
    ⟨_, value, known, same⟩ | ⟨_, _, ⟨value, after, ran, same⟩ | ⟨error, after, ran, same⟩⟩
  · rw [same]
    exact returns
  · rw [same]
    exact .inl (kept value known)
  · rw [ran] at returns
    rw [same]
    exact returns
  · rw [ran] at returns
    rw [same]
    exact returns

/-- A call of a sound builtin keeps nothing but results that are promised. -/
theorem mem_cache_checkAndPerform (sound : builtin.SoundUnless overtaxes) {entry : CacheEntry}
    (member : entry ∈ (checkAndPerform context name builtin arguments query).2.cache) :
    entry ∈ query.cache ∨ entry.name = name ∧ builtin.metadata.Promises entry.value := by
  cases checked : check name builtin.metadata.declaration arguments with
  | error error =>
      rw [checkAndPerform_of_check_eq_error checked] at member
      exact .inl member
  | ok _ =>
      rw [checkAndPerform_of_check_eq_ok checked] at member
      have counted := length_eq_of_check_eq_ok sound.fixed checked
      have keeps := sound.keeps context arguments query counted
      have returns := sound.returns context arguments query counted
      rcases perform_cases context name builtin arguments query with ⟨_, same⟩ |
        ⟨_, value, _, same⟩ | ⟨_, missing, ⟨value, after, ran, same⟩ | ⟨error, after, ran, same⟩⟩
      · rw [same, keeps] at member
        exact .inl member
      · rw [same] at member
        exact .inl member
      · rw [ran] at keeps returns
        rw [same, keeps, Cache.put_of_get?_eq_none missing] at member
        rcases List.mem_append.mp member with old | new
        · exact .inl old
        · rw [List.mem_singleton.mp new]
          refine .inr ⟨rfl, returns.resolve_right ?_⟩
          rintro ⟨_, _, aborts⟩
          cases aborts
      · rw [ran] at keeps
        rw [same, keeps] at member
        exact .inl member

/-- With the declared number of arguments a call of a sound builtin yields promised values or kept
ones or overtaxes the builtin, and with any other number it halts. -/
theorem checkAndPerform_cases (sound : builtin.SoundUnless overtaxes)
    (promised : ∀ value, builtin.metadata.Promises value → good value)
    (kept : ∀ value, query.cache.get? name arguments = some value → good value) :
    (arguments.length = builtin.metadata.arity ∧
      (Yields good (checkAndPerform context name builtin arguments query).1 ∨
        ∃ cause, overtaxes arguments cause ∧
          (checkAndPerform context name builtin arguments query).1 =
            aborted builtin.metadata.name cause)) ∨
    arguments.length ≠ builtin.metadata.arity ∧ ∃ error : BuiltinError,
      error.severity = .halting ∧
        (checkAndPerform context name builtin arguments query).1 = .error error := by
  have counts := Metadata.not_miscounts_iff sound.fixed arguments
  rcases check_cases name builtin.metadata.declaration arguments with ⟨miscounted, refused⟩ |
    ⟨counted, _, passed⟩ | ⟨counted, _, _, _, _, refused⟩
  · rw [checkAndPerform_of_check_eq_error refused]
    exact .inr ⟨(Metadata.miscounts_iff sound.fixed arguments).mp miscounted, _, rfl, rfl⟩
  · rw [checkAndPerform_of_check_eq_ok passed]
    exact .inl ⟨counts.mp counted, yields_perform sound (counts.mp counted) promised kept⟩
  · rw [checkAndPerform_of_check_eq_error refused]
    exact .inl ⟨counts.mp counted, .inl (.failed _ _)⟩

/-! ## Declared results -/

/-- The caches that only calls of a registry filled, from whatever queries and contexts. -/
inductive Filled (registry : Registry) : Cache → Prop where
  | empty : Filled registry []
  | call {query : Query} (filled : Filled registry query.cache) (context : Context) (name : String)
      (arguments : List Value) (strict : Bool) :
      Filled registry (registry.invoke context name arguments strict query).2.cache

/-- Every kept result is one that the builtin of its name promises. -/
def Typed (registry : Registry) (cache : Cache) : Prop :=
  ∀ entry ∈ cache, ∀ builtin, registry.find? entry.name = some builtin →
    builtin.metadata.Promises entry.value

/-- A call keeps the kept results as promised. -/
theorem Typed.invoke (sound : registry.Sound overtaxing) (typed : registry.Typed query.cache) :
    registry.Typed (registry.invoke context name arguments strict query).2.cache := by
  intro entry member other named
  cases found : registry.find? name with
  | none =>
      rw [invoke_of_find?_eq_none found] at member
      exact typed entry member other named
  | some builtin =>
      rw [invoke_of_find? found] at member
      rcases mem_cache_checkAndPerform (sound name builtin found) member with old | ⟨rfl, promised⟩
      · exact typed entry old other named
      · rw [found] at named
        cases named
        exact promised

/-- **Results that only calls of a sound registry kept are as promised.** -/
theorem typed_of_filled (sound : registry.Sound overtaxing) {cache : Cache}
    (filled : registry.Filled cache) : registry.Typed cache := by
  induction filled with
  | empty => exact fun _ member => absurd member List.not_mem_nil
  | call _ context name arguments strict ih => exact ih.invoke sound

theorem Typed.promises_of_get? (typed : registry.Typed query.cache)
    (found : registry.find? name = some builtin)
    (known : query.cache.get? name arguments = some value) : builtin.metadata.Promises value := by
  obtain ⟨entry, member, rfl, _, rfl⟩ := Cache.exists_entry_of_get? known
  exact typed entry member builtin found

/-- **A call of this library gives an undefined value or one of the declared type.** -/
theorem result_admitted (filled : standard.Filled query.cache)
    (found : standard.find? name = some builtin)
    (answered : (standard.invoke context name arguments strict query).1 = .ok value) :
    value = .undefined ∨
      ∃ type, builtin.metadata.declaration.result = some type ∧ type.admits value = true := by
  have typed := typed_of_filled standard_sound filled
  have kept (other : Value) (known : query.cache.get? name arguments = some other) :
      builtin.metadata.Promises other := typed.promises_of_get? found known
  rw [invoke_of_find? found] at answered
  rcases settle_eq_ok answered with given | undefined
  · rcases checkAndPerform_cases (standard_sound name builtin found) (fun _ => id) kept with
      ⟨_, yields | ⟨_, _, aborts⟩⟩ | ⟨_, error, _, halted⟩
    · obtain ⟨type, declared, allowed⟩ := yields.of_ok given
      exact allowed.imp_right fun admitted => ⟨type, declared, admitted⟩
    · rw [given] at aborts
      cases aborts
    · rw [given] at halted
      cases halted
  · exact .inl undefined

/-- A random number that an earlier call kept. -/
theorem result_admitted_repeated :
    (let context : Context := ⟨none, false, 0⟩
      let query := (standard.invoke context "rand.intn" [.string "roll", .ofInt 10] true
        ⟨[], .cycling [27], []⟩).2
      standard.Filled query.cache ∧
      (standard.invoke context "rand.intn" [.string "roll", .ofInt 10] false query).1 =
        .ok (.ofNat 7) ∧
      (Value.ofNat 7 = .undefined ∨ ∃ type,
        Declared.randIntn.declaration.result = some type ∧ type.admits (.ofNat 7) = true)) := by
  intro context query
  have filled : standard.Filled query.cache := .call .empty context _ _ _
  have found : standard.find? "rand.intn" = some Builtin.Effects.builtins[0] := rfl
  have answered : (standard.invoke context "rand.intn" [.string "roll", .ofInt 10] false query).1 =
      .ok (.ofNat 7) := rfl
  exact ⟨filled, answered, result_admitted filled found answered⟩

/-! ## Halting errors -/

theorem exists_settle_eq_ok (context : Context) {outcome : Outcome} (yields : Yields good outcome) :
    ∃ value, settle context false outcome = .ok value := by
  cases outcome with
  | ok value => exact ⟨value, rfl⟩
  | error own => exact ⟨.undefined, settle_lenient_of_ordinary context yields⟩

/-- A call with any other number of arguments than declared halts, and one with the declared number
comes to a value or an ordinary failure or overtaxes the builtin. -/
theorem halts_cases (found : standard.find? name = some builtin) (context : Context)
    (arguments : List Value) (query : Query) :
    (arguments.length ≠ builtin.metadata.arity ∧ ∀ strict, ∃ error : BuiltinError,
      error.severity = .halting ∧
        (standard.invoke context name arguments strict query).1 = .error (.failed error)) ∨
    (arguments.length = builtin.metadata.arity ∧ ∃ cause, Overtaxes name arguments cause) ∨
    (arguments.length = builtin.metadata.arity ∧
      (∃ value, (standard.invoke context name arguments false query).1 = .ok value) ∧
      ∀ strict (error : BuiltinError),
        (standard.invoke context name arguments strict query).1 = .error (.failed error) →
          error.severity = .ordinary) := by
  simp only [invoke_of_find? found]
  rcases @checkAndPerform_cases context name builtin arguments query (fun _ => True) _
    (standard_sound name builtin found) (fun _ _ => trivial) (fun _ _ => trivial) with
    ⟨counted, yields | ⟨cause, beyond, _⟩⟩ | ⟨miscounted, error, halts, raised⟩
  · refine .inr (.inr ⟨counted, exists_settle_eq_ok context yields, fun strict error failed => ?_⟩)
    obtain ⟨own, raised, rfl⟩ := settle_eq_error failed
    rw [raised] at yields
    exact yields
  · exact .inr (.inl ⟨counted, cause, beyond⟩)
  · refine .inl ⟨miscounted, fun strict => ⟨error.located context.location, halts, ?_⟩⟩
    rw [raised]
    exact settle_of_halting context strict halts

/-- **A call of this library halts if and only if the number of its arguments is not the declared
one.** A lenient call with the declared number gives a value unless the arguments overtax the
builtin, and with such arguments the call ends the program in both modes. -/
theorem halts_iff_miscounted (found : standard.find? name = some builtin) (context : Context)
    (arguments : List Value) (query : Query) :
    (∀ strict, (∃ error : BuiltinError, error.severity = .halting ∧
      (standard.invoke context name arguments strict query).1 = .error (.failed error)) ↔
        arguments.length ≠ builtin.metadata.arity) ∧
    (arguments.length = builtin.metadata.arity →
      ((∃ value, (standard.invoke context name arguments false query).1 = .ok value) ↔
        ∀ cause, ¬Overtaxes name arguments cause)) ∧
    ∀ cause, Overtaxes name arguments cause → arguments.length = builtin.metadata.arity ∧
      ∀ strict, standard.invoke context name arguments strict query =
        (.error (.failed ⟨.aborting, name, cause, context.location⟩), query) := by
  rcases halts_cases found context arguments query with ⟨miscounted, halts⟩ |
    ⟨counted, cause, beyond⟩ | ⟨counted, answered, ordinary⟩
  · refine ⟨fun strict => iff_of_true (halts strict) miscounted,
      fun counted => absurd counted miscounted, fun cause beyond => ?_⟩
    obtain ⟨error, halting, failed⟩ := halts true
    rw [beyond.invoke] at failed
    cases failed
    cases halting
  · have aborts := fun strict => beyond.invoke context strict query
    refine ⟨fun strict => iff_of_false ?_ (not_not_intro counted),
      fun _ => iff_of_false ?_ fun survives => survives cause beyond,
      fun other again => ⟨counted, fun strict => again.invoke context strict query⟩⟩
    · rintro ⟨error, halting, failed⟩
      rw [aborts] at failed
      cases failed
      cases halting
    · rintro ⟨value, given⟩
      rw [aborts] at given
      cases given
  · have survives (cause : Cause) : ¬Overtaxes name arguments cause := by
      intro beyond
      obtain ⟨value, given⟩ := answered
      rw [beyond.invoke] at given
      cases given
    refine ⟨fun strict => iff_of_false ?_ (not_not_intro counted),
      fun _ => iff_of_true answered survives, fun cause beyond => absurd beyond (survives cause)⟩
    rintro ⟨error, halting, failed⟩
    cases halting.symm.trans (ordinary strict error failed)

/-- A division by zero goes on, a division of one number halts, and a width that no text has ends
the program. -/
theorem halts_iff_miscounted_division :
    (let context : Context := ⟨none, false, 0⟩
      let query : Query := ⟨[], .cycling [1], []⟩
      (∃ value, (standard.invoke context "div" [.ofInt 1, .ofInt 0] false query).1 = .ok value) ∧
      (∃ error : BuiltinError, error.severity = .halting ∧
        (standard.invoke context "div" [.ofInt 1] false query).1 = .error (.failed error)) ∧
      standard.invoke context "sprintf" [.string "%9223372036854775808d", .array [.ofInt 1]] false
        query = (.error (.failed ⟨.aborting, "sprintf", .tooWide, none⟩), query)) := by
  intro context query
  obtain ⟨builtin, found, arity⟩ :
      ∃ builtin, standard.find? "div" = some builtin ∧ builtin.metadata.arity = 2 :=
    ⟨_, rfl, rfl⟩
  refine ⟨((halts_iff_miscounted found context [.ofInt 1, .ofInt 0] query).2.1 ?_).mpr ?_,
    ((halts_iff_miscounted found context [.ofInt 1] query).1 false).mpr ?_, ?_⟩
  · rw [arity]
    rfl
  · exact fun cause beyond => absurd beyond.mem_overtaxed (by decide)
  · rw [arity]
    decide
  · obtain ⟨_, format⟩ : ∃ builtin, standard.find? "sprintf" = some builtin := ⟨_, rfl⟩
    have beyond :
        Overtaxes "sprintf" [.string "%9223372036854775808d", .array [.ofInt 1]] .tooWide :=
      @Overtaxes.format _ _ .width (by decide +kernel)
    exact ((halts_iff_miscounted format context _ query).2.2 _ beyond).2 false

/-- The number of a quantity whose shift is below the machine words ends the program also in a
lenient call. -/
theorem not_all_lenient_calls_answered :
    ¬∀ (name : String) (builtin : Builtin), standard.find? name = some builtin →
      ∀ (context : Context) (arguments : List Value) (query : Query),
        arguments.length = builtin.metadata.arity →
          ∃ value, (standard.invoke context name arguments false query).1 = .ok value := by
  intro all
  have beyond : Overtaxes "units.parse" [.string "0.1e-9223372036854775808"] .shiftOverflow :=
    .amount (by decide)
  obtain ⟨value, given⟩ := all "units.parse" _ rfl ⟨none, false, 0⟩
    [.string "0.1e-9223372036854775808"] ⟨[], .cycling [1], []⟩ rfl
  rw [beyond.invoke] at given
  cases given

end Registry

end Rego
