import Mathlib.Data.List.Induction
import Rego.Proofs.Builtin.Steps

/-!
# Drawn results are stable

The calls of a query are made one after the other, in its context or in contexts made from it, and
share the state of the query (`run`). Whatever is called, kept results stay (`prefix_cache_run`),
and under a key the cache holds what the calls so far gave under it (`get?_run_eq_some_iff`). This
makes one statement about all sequences of calls (`drawn_results_stable`): a result that a builtin
drew once is what all later calls with equal arguments give.
-/

namespace Rego

set_option autoImplicit false

open Builtin.Effects

/-- A call of a query: what is called, whether in strict mode, and the places that lead from the
context of the query to that of the call. -/
structure Call where
  name : String
  arguments : List Value
  strict : Bool
  places : List Location

namespace Call

/-- The context of a call, made from the context of the query. -/
def context (root : Context) (call : Call) : Context := call.places.foldl Context.child root

/-- The answer to a call, and the query afterwards. -/
def make (root : Context) (call : Call) (query : Query) : Except CallError Value × Query :=
  Registry.standard.invoke (call.context root) call.name call.arguments call.strict query

/-- A call succeeds with a value; an undefined one is no success. -/
def Succeeds (root : Context) (call : Call) (query : Query) (value : Value) : Prop :=
  (call.make root query).1 = .ok value ∧ value ≠ .undefined

/-- The query after some calls. -/
def run (root : Context) (calls : List Call) (query : Query) : Query :=
  calls.foldl (fun query call => (call.make root query).2) query

/-- One of some calls succeeded with a value under a key. -/
def Gave (root : Context) (start : Query) (calls : List Call) (name : String)
    (arguments : List Value) (value : Value) : Prop :=
  ∃ before call, before ++ [call] <+: calls ∧ call.name = name ∧
    SameArguments call.arguments arguments ∧ call.Succeeds root (run root before start) value

variable {root : Context} {call : Call} {calls : List Call} {start query : Query} {value : Value}
  {name : String} {arguments : List Value}

theorem timestamp_context (root : Context) (call : Call) :
    (call.context root).timestamp = root.timestamp := by
  unfold context
  induction call.places generalizing root with
  | nil => rfl
  | cons place places ih => exact ih (root.child place)

theorem run_append (root : Context) (calls further : List Call) (query : Query) :
    run root (calls ++ further) query = run root further (run root calls query) :=
  List.foldl_append

theorem run_concat (root : Context) (calls : List Call) (call : Call) (query : Query) :
    run root (calls ++ [call]) query = (call.make root (run root calls query)).2 :=
  run_append root calls [call] query

/-- The last of some calls gave a value, or one before it did. -/
theorem gave_concat_iff :
    Gave root start (calls ++ [call]) name arguments value ↔
      Gave root start calls name arguments value ∨
        call.name = name ∧ SameArguments call.arguments arguments ∧
          call.Succeeds root (run root calls start) value := by
  constructor
  · rintro ⟨before, earlier, within, gave⟩
    rcases List.prefix_concat_iff.mp within with whole | within
    · obtain ⟨rfl, last⟩ := List.append_inj' whole rfl
      cases last
      exact .inr gave
    · exact .inl ⟨before, earlier, within, gave⟩
  · rintro (⟨before, earlier, within, gave⟩ | gave)
    · exact ⟨before, earlier, within.trans (List.prefix_append _ _), gave⟩
    · exact ⟨calls, call, List.prefix_rfl, gave⟩

/-! ## One call -/

/-- A call has one of the three ends, at the time of the query. -/
theorem step_make (root : Context) (call : Call) (query : Query) :
    Registry.Step root.timestamp call.name call.arguments query (call.make root query) := by
  rw [← timestamp_context root call]
  exact Registry.step (call.context root) call.name call.arguments call.strict query

theorem prefix_cache_make (root : Context) (call : Call) (query : Query) :
    query.cache <+: (call.make root query).2.cache := by
  have step := step_make root call query
  generalize call.make root query = result at step
  cases step with
  | repeated admitted known => exact List.prefix_rfl
  | drawn admitted missing draws => exact List.prefix_append _ _
  | idle fails => exact List.prefix_rfl

/-- A call that is no successful one of a builtin that draws changes neither the kept results nor
the generator. -/
theorem make_idle (fails : call.name ∈ drawing → ∀ value, ¬call.Succeeds root query value) :
    (call.make root query).2.cache = query.cache ∧
      (call.make root query).2.generator = query.generator := by
  have step := step_make root call query
  unfold Succeeds at fails
  generalize call.make root query = result at step fails
  cases step with
  | repeated admitted known => exact ⟨rfl, rfl⟩
  | drawn admitted missing draws =>
      exact absurd ⟨rfl, draws.ne_undefined⟩ (fails admitted.1 _)
  | idle _ => exact ⟨rfl, rfl⟩

/-! ## The kept results of a run -/

/-- What may be kept: results that are drawn for their arguments, one under each key. -/
structure Kept (timestamp : Int) (cache : Cache) : Prop where
  drawn : ∀ entry ∈ cache, Draws timestamp entry.name entry.arguments entry.value
  distinct : cache.Distinct

theorem Kept.make (kept : Kept root.timestamp query.cache) (call : Call) :
    Kept root.timestamp (call.make root query).2.cache := by
  have step := step_make root call query
  generalize call.make root query = result at step
  cases step with
  | repeated admitted known => exact kept
  | drawn admitted missing draws =>
      refine ⟨fun entry member => ?_, kept.distinct.append missing _⟩
      rcases List.mem_append.mp member with old | new
      · exact kept.drawn entry old
      · rw [List.mem_singleton.mp new]
        exact draws
  | idle fails => exact kept

theorem Kept.run (kept : Kept root.timestamp query.cache) (calls : List Call) :
    Kept root.timestamp (run root calls query).cache := by
  induction calls generalizing query with
  | nil => exact kept
  | cons call rest ih => exact ih (kept.make call)

theorem prefix_cache_run (root : Context) (calls : List Call) (query : Query) :
    query.cache <+: (run root calls query).cache := by
  induction calls generalizing query with
  | nil => exact List.prefix_rfl
  | cons call rest ih => exact (prefix_cache_make root call query).trans (ih _)

/-- A value is kept under a key after a call if it was before, or if the call succeeded with it. -/
theorem get?_make_eq_some_iff :
    (call.make root query).2.cache.get? name arguments = some value ↔
      query.cache.get? name arguments = some value ∨
        name ∈ drawing ∧ call.name = name ∧ SameArguments call.arguments arguments ∧
          call.Succeeds root query value := by
  have step := step_make root call query
  unfold Succeeds
  generalize call.make root query = result at step
  cases step with
  | @repeated stored admitted known =>
      refine ⟨.inl, fun found => found.elim id ?_⟩
      rintro ⟨_, rfl, same, given, _⟩
      cases given
      exact (Cache.get?_congr same query.cache call.name).symm.trans known
  | @drawn stored generator admitted missing draws =>
      rw [Cache.get?_append_eq_some_iff]
      refine or_congr_right ⟨?_, ?_⟩
      · rintro ⟨_, rfl, same, rfl⟩
        exact ⟨admitted.1, rfl, same, rfl, draws.ne_undefined⟩
      · rintro ⟨_, rfl, same, given, _⟩
        cases given
        exact ⟨(Cache.get?_congr same query.cache call.name).symm.trans missing, rfl, same, rfl⟩
  | idle fails =>
      refine ⟨.inl, fun found => found.elim id ?_⟩
      rintro ⟨listed, rfl, _, given, defined⟩
      exact absurd (fails listed value given) defined

/-- **Under a key the cache holds what the calls so far gave under it.** -/
theorem get?_run_eq_some_iff (empty : start.cache = []) :
    (run root calls start).cache.get? name arguments = some value ↔
      name ∈ drawing ∧ Gave root start calls name arguments value := by
  -- A run grows at its end, and what a call gives depends on all calls before it.
  induction calls using List.reverseRecOn with
  | nil =>
      have nothing : (run root [] start).cache.get? name arguments = none := by
        rw [run, List.foldl_nil, empty]
        rfl
      rw [nothing]
      refine ⟨nofun, ?_⟩
      rintro ⟨_, before, call, within, _⟩
      exact absurd (List.prefix_nil.mp within) (List.concat_ne_nil call before)
  | append_singleton calls call ih =>
      rw [run_concat, get?_make_eq_some_iff, ih, gave_concat_iff, and_or_left]

/-- A successful call of a builtin that draws has arguments that pass the check, and its value was
drawn for equal ones. -/
theorem Succeeds.admitted_and_draws (succeeds : call.Succeeds root query value)
    (kept : Kept root.timestamp query.cache) (listed : call.name ∈ drawing) :
    Registry.Admitted call.name call.arguments ∧
      ∃ original, Draws root.timestamp call.name original value ∧
        SameArguments original call.arguments := by
  obtain ⟨given, defined⟩ := succeeds
  have step := step_make root call query
  generalize call.make root query = result at step given
  cases step with
  | repeated admitted known =>
      cases given
      obtain ⟨entry, member, named, same, rfl⟩ := Cache.exists_entry_of_get? known
      exact ⟨admitted, entry.arguments, named ▸ kept.drawn entry member, same⟩
  | drawn admitted missing draws =>
      cases given
      exact ⟨admitted, call.arguments, draws, .refl _⟩
  | idle fails => exact absurd (fails listed value given) defined

/-! ## Stability -/

theorem exists_string_of_equals {text : String} {value : Value}
    (same : (Value.string text).equals value = true) : ∃ other, value = .string other := by
  cases value with
  | string other => exact ⟨other, rfl⟩
  | _ => cases same

theorem exists_number_of_equals {number : Number} {value : Value}
    (same : (Value.number number).equals value = true) :
    ∃ other, value = .number other ∧ number.compare other = .eq := by
  cases value with
  | number other => exact ⟨other, rfl, Value.equals_iff.mp same⟩
  | _ => cases same

/-- A random number below the magnitude of a bound, for arguments that name this bound. -/
theorem exists_number_of_draws {timestamp : Int} {original : List Value}
    (draws : Draws timestamp "rand.intn" original value) (same : SameArguments original arguments) :
    ∃ label limit whole drawn, arguments = [.string label, .number limit] ∧
      limit.toInt? = some whole ∧ value = .ofNat drawn ∧
        (drawn < whole.natAbs ∨ whole = 0 ∧ drawn = 0) := by
  generalize named : "rand.intn" = name at draws
  cases draws with
  | @number label limit whole drawn integral within =>
      obtain ⟨text, _, texts, rest, rfl⟩ := List.forall₂_cons_left_iff.mp same
      obtain ⟨bound, _, bounds, none, rfl⟩ := List.forall₂_cons_left_iff.mp rest
      cases none
      obtain ⟨other, rfl, equal⟩ := exists_number_of_equals bounds
      obtain ⟨label, rfl⟩ := exists_string_of_equals texts
      exact ⟨label, other, whole, drawn, rfl, Number.toInt?_congr equal ▸ integral, rfl, within⟩
  | identifier => exact absurd named (by decide)
  | time => exact absurd named (by decide)

/-- What holds of the calls of a query, from a start without kept results. -/
structure Stable (root : Context) (start : Query) (calls : List Call) : Prop where
  /-- No key has two entries. -/
  distinct : (run root calls start).cache.Distinct
  /-- The value under a key is the one with which a call of a builtin that draws succeeded. -/
  records : ∀ name arguments value,
    (run root calls start).cache.get? name arguments = some value ↔
      name ∈ drawing ∧ Gave root start calls name arguments value
  /-- Further calls keep all entries as they are. -/
  grows : ∀ further, (run root calls start).cache <+: (run root (calls ++ further) start).cache
  /-- A call that fails or is of another builtin leaves the cache and the generator alone. -/
  idle : ∀ call : Call,
    (call.name ∈ drawing → ∀ value, ¬call.Succeeds root (run root calls start) value) →
      (call.make root (run root calls start)).2.cache = (run root calls start).cache ∧
      (call.make root (run root calls start)).2.generator = (run root calls start).generator
  /-- After a success every call with equal arguments gives the same value and changes nothing,
  whatever is called in between. -/
  repeats : ∀ (call : Call) (value : Value) (between : List Call) (later : Call),
    call.name ∈ drawing → call.Succeeds root (run root calls start) value →
    later.name = call.name → SameArguments call.arguments later.arguments →
      later.make root (run root (calls ++ call :: between) start) =
        (.ok value, run root (calls ++ call :: between) start)
  /-- A random number is below the magnitude of its bound, and zero if there is none below it. -/
  numbers : ∀ (call : Call) (value : Value),
    call.name = "rand.intn" → call.Succeeds root (run root calls start) value →
      ∃ label limit whole drawn, call.arguments = [.string label, .number limit] ∧
        limit.toInt? = some whole ∧ value = .ofNat drawn ∧
          (drawn < whole.natAbs ∨ whole = 0 ∧ drawn = 0)

/-- **The results that builtins draw are stable over a query.** -/
theorem drawn_results_stable (root : Context) (generator : Generator) (events : List TraceEvent)
    (calls : List Call) : Stable root ⟨[], generator, events⟩ calls := by
  have empty : Kept root.timestamp (Query.mk [] generator events).cache :=
    ⟨fun _ member => absurd member List.not_mem_nil, .nil⟩
  have kept := empty.run calls
  constructor
  case distinct => exact kept.distinct
  case records => exact fun name arguments value => get?_run_eq_some_iff rfl
  case grows =>
    intro further
    rw [run_append]
    exact prefix_cache_run root further _
  case idle => exact fun call => make_idle
  case repeats =>
    intro call value between later listed gave named same
    have admitted := (gave.admitted_and_draws kept listed).1.congr same
    rw [← named] at admitted
    refine Registry.invoke_of_get?_eq_some admitted ((get?_run_eq_some_iff rfl).mpr ?_)
    refine ⟨admitted.1, calls, call, ?_, named.symm, same, gave⟩
    exact ⟨between, List.append_assoc calls [call] between⟩
  case numbers =>
    intro call value named gave
    have listed : call.name ∈ drawing := by simp [named, drawing]
    obtain ⟨_, original, draws, same⟩ := gave.admitted_and_draws kept listed
    rw [named] at draws
    exact exists_number_of_draws draws same

/-- A bound is given as an integer first, and later, at another place, as a whole double. -/
theorem drawn_results_stable_spelling :
    (let root : Context := ⟨none, true, 0⟩
      let start : Query := ⟨[], .cycling [27, 4], []⟩
      let call : Call := ⟨"rand.intn", [.string "roll", .ofInt 10], true, []⟩
      let between : List Call := [⟨"trace", [.string "rolled"], true, []⟩,
        ⟨"rand.intn", [.string "other", .ofInt 10], false, []⟩]
      let later : Call := ⟨"rand.intn",
        [.string "roll", .number (.float (.ofBits 0x4024000000000000))], false,
        [⟨"policy.rego", 3, 7⟩]⟩
      call.Succeeds root start (.ofNat 7) ∧
      later.make root (run root (call :: between) start) =
        (.ok (.ofNat 7), run root (call :: between) start)) := by
  have given : (Registry.standard.invoke ⟨none, true, 0⟩ "rand.intn" [.string "roll", .ofInt 10]
      true ⟨[], .cycling [27, 4], []⟩).1 = .ok (.ofNat 7) := rfl
  intro root start call between later
  have listed : call.name ∈ drawing := by decide
  have gave : call.Succeeds root start (.ofNat 7) := ⟨given, nofun⟩
  have same : SameArguments call.arguments later.arguments :=
    SameArguments.iff_equalItems.mpr (by decide +kernel)
  have stable : Stable root start [] := drawn_results_stable root (.cycling [27, 4]) [] []
  exact ⟨gave, stable.repeats call (.ofNat 7) between later listed gave rfl same⟩

end Call

end Rego
