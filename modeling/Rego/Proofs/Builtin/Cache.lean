import Mathlib.Data.List.Forall2
import Rego.Builtin.Query
import Rego.Proofs.Value.Fields

/-!
# Kept results

A result is kept under the name of a builtin and a list of arguments, and lists of arguments that
are equal one by one (`SameArguments`) find the same results (`Cache.get?_congr`). A result under a
new key goes to the end and leaves all others as they are (`Cache.put_of_get?_eq_none`), so that no
key ever has a second entry (`Cache.Distinct.append`).
-/

namespace Rego

set_option autoImplicit false

/-- Lists of arguments are as long as each other and equal one by one. -/
def SameArguments (arguments others : List Value) : Prop :=
  List.Forall₂ (fun argument other => argument.equals other = true) arguments others

namespace SameArguments

variable {arguments others third : List Value}

theorem iff_equalItems : ∀ {arguments others : List Value},
    SameArguments arguments others ↔ Value.equalItems arguments others = true
  | [], [] => ⟨fun _ => rfl, fun _ => .nil⟩
  | [], _ :: _ => ⟨nofun, nofun⟩
  | _ :: _, [] => ⟨nofun, nofun⟩
  | argument :: rest, other :: others => by
      unfold SameArguments Value.equalItems
      rw [List.forall₂_cons, Bool.and_eq_true]
      exact and_congr_right fun _ => iff_equalItems

theorem refl (arguments : List Value) : SameArguments arguments arguments :=
  List.forall₂_same.mpr fun argument _ => Value.equals_refl argument

theorem symm (same : SameArguments arguments others) : SameArguments others arguments :=
  (same.imp fun _ _ => Value.equals_symm).flip

theorem trans (one : SameArguments arguments others) (two : SameArguments others third) :
    SameArguments arguments third := by
  unfold SameArguments at one two ⊢
  induction one generalizing third with
  | nil => exact two
  | cons first _ ih =>
      cases two with
      | cons second rest => exact .cons (Value.equals_trans first second) (ih rest)

end SameArguments

namespace Cache

variable {cache : Cache} {name : String} {arguments others : List Value} {value : Value}

/-! ## Looking up results -/

theorem matchesKey_iff {entry : CacheEntry} :
    matchesKey name arguments entry = true ↔
      entry.name = name ∧ SameArguments entry.arguments arguments := by
  unfold matchesKey
  rw [Bool.and_eq_true, ← Value.equalItems_eq_compareItems, SameArguments.iff_equalItems,
    beq_iff_eq]

/-- Arguments that are equal one by one find the same results. -/
theorem get?_congr (same : SameArguments arguments others) (cache : Cache) (name : String) :
    cache.get? name arguments = cache.get? name others := by
  have keys : matchesKey name arguments = matchesKey name others := by
    funext entry
    refine Bool.eq_iff_iff.mpr ?_
    rw [matchesKey_iff, matchesKey_iff]
    exact and_congr_right fun _ => ⟨fun found => found.trans same,
      fun found => found.trans same.symm⟩
  unfold get?
  rw [keys]

theorem exists_entry_of_get? (found : cache.get? name arguments = some value) :
    ∃ entry ∈ cache, entry.name = name ∧ SameArguments entry.arguments arguments ∧
      entry.value = value := by
  obtain ⟨entry, first, rfl⟩ := Option.map_eq_some_iff.mp found
  obtain ⟨named, same⟩ := matchesKey_iff.mp (List.find?_some first)
  exact ⟨entry, List.mem_of_find?_eq_some first, named, same, rfl⟩

/-- What is found among entries is found there or, if nothing is, in the last one. -/
theorem get?_append_eq_some_iff {entry : CacheEntry} :
    Cache.get? (cache ++ [entry]) name arguments = some value ↔
      cache.get? name arguments = some value ∨
        cache.get? name arguments = none ∧ entry.name = name ∧
          SameArguments entry.arguments arguments ∧ entry.value = value := by
  have last : Cache.get? [entry] name arguments = some value ↔
      entry.name = name ∧ SameArguments entry.arguments arguments ∧ entry.value = value := by
    rw [get?, List.find?_singleton]
    by_cases found : matchesKey name arguments entry = true
    · simp [found, matchesKey_iff.mp found]
    · simp only [found, Bool.false_eq_true, if_false, Option.map_none, reduceCtorEq, false_iff]
      exact fun ⟨named, same, _⟩ => found (matchesKey_iff.mpr ⟨named, same⟩)
  have split : Cache.get? (cache ++ [entry]) name arguments =
      (cache.get? name arguments).or (Cache.get? [entry] name arguments) := by
    rw [get?, get?, get?, List.find?_append]
    cases List.find? (matchesKey name arguments) cache <;> rfl
  rw [split, Option.or_eq_some_iff, last]

/-! ## Keeping results -/

/-- A result for a new key goes to the end. -/
theorem put_of_get?_eq_none (missing : cache.get? name arguments = none) (value : Value) :
    cache.put name arguments value = cache ++ [⟨name, arguments, value⟩] := by
  have unmatched := List.find?_eq_none.mp (Option.map_eq_none_iff.mp missing)
  unfold put
  rw [if_neg]
  intro some
  obtain ⟨entry, member, matching⟩ := List.any_eq_true.mp some
  exact unmatched entry member matching

/-- No two results are kept under the same key. -/
def Distinct (cache : Cache) : Prop :=
  cache.Pairwise fun entry other =>
    ¬(entry.name = other.name ∧ SameArguments entry.arguments other.arguments)

theorem Distinct.append (distinct : cache.Distinct)
    (missing : cache.get? name arguments = none) (value : Value) :
    Cache.Distinct (cache ++ [⟨name, arguments, value⟩]) := by
  have unmatched := List.find?_eq_none.mp (Option.map_eq_none_iff.mp missing)
  refine List.pairwise_append.mpr ⟨distinct, List.pairwise_singleton _ _, ?_⟩
  intro entry member last only same
  rw [List.mem_singleton.mp only] at same
  exact unmatched entry member (matchesKey_iff.mpr same)

end Cache

end Rego
