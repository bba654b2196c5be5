import Rego.Proofs.Builtin.Steps

/-!
# Equal arguments are checked alike

Values that are equal may be written differently, and no type tells them apart (`Ty.admits_congr`).
So the check of arguments treats lists alike that are equal one by one: it accepts both, or refuses
both for the same reason and at the same position, with its own spelling of the refused argument
(`Alike`).

Kept results are found by arguments that are equal to those of the call that kept them. As the check
comes before a result is kept, and builtins leave the kept results to their registry, whatever
finds a result passes the check as well (`exists_check_of_get?`).
-/

namespace Rego.Registry

set_option autoImplicit false

variable {registry : Registry} {context : Context} {name : String} {arguments others : List Value}
  {strict : Bool} {query : Query} {value : Value}

/-! ## Verdicts -/

/-- Two verdicts on arguments that differ in the spelling of a refused argument at most. -/
inductive Alike : Except BuiltinError Unit → Except BuiltinError Unit → Prop where
  | accepted : Alike (.ok ()) (.ok ())
  | miscounted (name : String) (expected got : Nat) :
      Alike (.error (.halting name (.undeclaredCount expected got)))
        (.error (.halting name (.undeclaredCount expected got)))
  | mistyped (name : String) (position : Nat) (expected : Ty) {argument other : Value}
      (same : argument.equals other = true) :
      Alike (.error (.ordinary name (.undeclaredType position expected argument)))
        (.error (.ordinary name (.undeclaredType position expected other)))

/-- Among arguments that are equal one by one the first misfits stand at the same position, or there
are none. -/
theorem misfit?_alike (signature : Signature) (same : SameArguments arguments others)
    (start : Nat) :
    (misfit? signature start arguments = none ∧ misfit? signature start others = none) ∨
    ∃ position expected argument other,
      misfit? signature start arguments = some (position, expected, argument) ∧
      misfit? signature start others = some (position, expected, other) ∧
      argument.equals other = true := by
  unfold SameArguments at same
  induction same generalizing start with
  | nil => exact .inl ⟨rfl, rfl⟩
  | @cons argument other rest rest' equal _ ih =>
      unfold misfit?
      cases signature.argument? start with
      | none => exact ih (start + 1)
      | some expected =>
          have accepted : (argument.isUndefined || expected.admits argument) =
              (other.isUndefined || expected.admits other) := by
            rw [Value.isUndefined_congr equal, expected.admits_congr equal]
          simp only [accepted]
          split
          · exact ih (start + 1)
          · exact .inr ⟨start, expected, argument, other, rfl, rfl, equal⟩

/-- **Arguments that are equal one by one are checked alike.** -/
theorem check_alike (name : String) (signature : Signature)
    (same : SameArguments arguments others) :
    Alike (check name signature arguments) (check name signature others) := by
  unfold check
  rw [List.Forall₂.length_eq same]
  split
  · rcases misfit?_alike signature same 0 with ⟨one, two⟩ |
      ⟨position, expected, argument, other, one, two, equal⟩
    · rw [one, two]
      exact .accepted
    · rw [one, two]
      exact .mistyped name (position + 1) expected equal
  · exact .miscounted name _ _

/-! ## Kept results -/

/-- The builtins of a registry leave the kept results of a query as they are, when their arguments
have passed the check. -/
def LeavesCache (registry : Registry) : Prop :=
  ∀ name builtin, registry.find? name = some builtin → ∀ context arguments query,
    check name builtin.metadata.declaration arguments = .ok () →
      (builtin.implementation.run context arguments query).2.cache = query.cache

theorem Sound.leavesCache {overtaxes : String → List Value → Cause → Prop}
    (sound : registry.Sound overtaxes) : registry.LeavesCache :=
  fun name builtin found context arguments query checked =>
    have known := sound name builtin found
    known.keeps context arguments query (length_eq_of_check_eq_ok known.fixed checked)

/-- Every kept result belongs to a builtin and to arguments that pass its check. -/
def Checked (registry : Registry) (cache : Cache) : Prop :=
  ∀ entry ∈ cache, ∃ builtin, registry.find? entry.name = some builtin ∧
    check entry.name builtin.metadata.declaration entry.arguments = .ok ()

/-- A call keeps a result only for arguments that have passed the check. -/
theorem Checked.invoke (leaves : registry.LeavesCache) (known : registry.Checked query.cache) :
    registry.Checked (registry.invoke context name arguments strict query).2.cache := by
  cases found : registry.find? name with
  | none =>
      rw [invoke_of_find?_eq_none found]
      exact known
  | some builtin =>
      rw [invoke_of_find? found]
      cases checked : check name builtin.metadata.declaration arguments with
      | error error =>
          rw [checkAndPerform_of_check_eq_error checked]
          exact known
      | ok _ =>
          have same := leaves name builtin found context arguments query checked
          rw [checkAndPerform_of_check_eq_ok checked]
          rcases perform_cases context name builtin arguments query with ⟨_, performed⟩ |
            ⟨_, value, _, performed⟩ | ⟨_, missing, ⟨value, after, ran, performed⟩ |
              ⟨error, after, ran, performed⟩⟩
          · rw [performed, same]
            exact known
          · rw [performed]
            exact known
          · rw [ran] at same
            rw [performed, same, Cache.put_of_get?_eq_none missing]
            refine List.forall_mem_append.mpr ⟨known, List.forall_mem_singleton.mpr ?_⟩
            exact ⟨builtin, found, checked⟩
          · rw [ran] at same
            rw [performed, same]
            exact known

/-- **Results that only calls of a registry kept are those of checked calls.** -/
theorem checked_of_filled (leaves : registry.LeavesCache) {cache : Cache}
    (filled : registry.Filled cache) : registry.Checked cache := by
  induction filled with
  | empty => exact fun _ member => absurd member List.not_mem_nil
  | call _ context name arguments strict ih => exact ih.invoke leaves

/-- Arguments that find a kept result pass the check. -/
theorem Checked.exists_check_of_get? {cache : Cache} (known : registry.Checked cache)
    (found : cache.get? name arguments = some value) :
    ∃ builtin, registry.find? name = some builtin ∧
      check name builtin.metadata.declaration arguments = .ok () := by
  obtain ⟨entry, member, rfl, same, _⟩ := Cache.exists_entry_of_get? found
  obtain ⟨builtin, present, checked⟩ := known entry member
  exact ⟨builtin, present, check_eq_ok_congr same checked⟩

/-- **Equality is respected by types, by checks, and so by kept results.** A type admits both of two
equal values or neither. A declaration accepts both of two lists of arguments that are equal one by
one, or refuses both for the same reason at the same position. And arguments that find a result
which calls have kept are arguments that pass the check. -/
theorem checks_respect_equality :
    (∀ (type : Ty) (left right : Value), left.equals right = true →
      type.admits left = type.admits right) ∧
    (∀ (name : String) (signature : Signature) (arguments others : List Value),
      SameArguments arguments others →
        Alike (check name signature arguments) (check name signature others)) ∧
    standard.LeavesCache ∧
    ∀ (registry : Registry) (cache : Cache), registry.LeavesCache → registry.Filled cache →
      ∀ (name : String) (arguments : List Value) (value : Value),
        cache.get? name arguments = some value → ∃ builtin, registry.find? name = some builtin ∧
          check name builtin.metadata.declaration arguments = .ok () := by
  refine ⟨fun type left right => type.admits_congr, ?_, standard_sound.leavesCache, ?_⟩
  · intro name signature arguments others same
    exact check_alike name signature same
  · intro registry cache leaves filled name arguments value found
    exact (checked_of_filled leaves filled).exists_check_of_get? found

/-- An integer and the same whole double: as a listed key of an object, as a refused second
argument, and as the bound under which a random number was kept. -/
theorem checks_respect_equality_spelling :
    (let ten : Value := .ofInt 10
      let whole : Value := .number (.float (.ofBits 0x4024000000000000))
      let type : Ty := .object [(ten, .string)] none
      let query := (standard.invoke ⟨none, false, 0⟩ "rand.intn" [.string "roll", ten] true
        ⟨[], .cycling [27], []⟩).2
      type.admits (.object [(ten, .string "x")]) = type.admits (.object [(whole, .string "x")]) ∧
      Alike (check "concat" ⟨[.string, .string], none, none⟩ [.string ",", ten])
        (check "concat" ⟨[.string, .string], none, none⟩ [.string ",", whole]) ∧
      query.cache.get? "rand.intn" [.string "roll", whole] = some (.ofNat 7) ∧
      ∃ builtin, standard.find? "rand.intn" = some builtin ∧
        check "rand.intn" builtin.metadata.declaration [.string "roll", whole] = .ok ()) := by
  intro ten whole type query
  obtain ⟨types, verdicts, leaves, known⟩ := checks_respect_equality
  have equal : ten.equals whole = true := by decide +kernel
  have filled : standard.Filled query.cache := .call .empty ⟨none, false, 0⟩ _ _ _
  have kept : query.cache.get? "rand.intn" [.string "roll", ten] = some (.ofNat 7) := rfl
  have found : query.cache.get? "rand.intn" [.string "roll", whole] = some (.ofNat 7) := by
    have same : SameArguments [.string "roll", ten] [.string "roll", whole] :=
      .cons (Value.equals_refl _) (.cons equal .nil)
    rw [← Cache.get?_congr same]
    exact kept
  refine ⟨types type _ _ ?_, verdicts _ _ _ _ ?_, found, known _ _ leaves filled _ _ _ found⟩
  · have fields : Value.equalFields [(ten, .string "x")] [(whole, .string "x")] = true := by
      simp only [Value.equalFields, equal, Value.equals_refl, Bool.and_self]
    exact fields
  · exact .cons (Value.equals_refl _) (.cons equal .nil)

end Rego.Registry
