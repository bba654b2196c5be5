import Rego.Proofs.Builtin.Calls
import Rego.Proofs.Value.Members

/-!
# Calls on sets

The builtins on sets take every set and give what the algebra of members makes of it. Those that
combine all sets in a set read their members one by one and stop at the first that is no set
(`memberLists_map`, `memberLists_fails`). Sets that have the same values are equal, however they
were made and whichever spelling of a value they keep (`equals_of_among_iff`); so it is enough to
know which values a result has (`set_algebra_exact`).
-/

namespace Rego.Builtin.Collections

set_option autoImplicit false

open Registry (Gives Fails)

variable {value argument : Value} {members left right pair : List Value}
  {sets : List (List Value)}

/-! ## Two sets -/

theorem allows_set (members : List Value) (label : String) (text : Option String) :
    (Ty.named label text (.set (some (.any [])))).Allows (.set members) :=
  .named (.inr (Ty.admits_setOfAny members)) label text

theorem gives_and (left right : List Value) :
    Gives "and" [.set left, .set right] (.set (Members.intersection left right)) := by
  have found : Registry.standard.find? "and" = some (binary Declared.and fun _ => intersection) :=
    rfl
  exact Registry.gives_of_run found (by decide)
    (Registry.check_of_allows (.cons (allows_set left _ _) (.cons (allows_set right _ _) .nil))) rfl

theorem gives_or (left right : List Value) :
    Gives "or" [.set left, .set right] (.set (Members.union left right)) := by
  have found : Registry.standard.find? "or" = some (binary Declared.or fun _ => union) := rfl
  exact Registry.gives_of_run found (by decide)
    (Registry.check_of_allows (.cons (allows_set left _ _) (.cons (allows_set right _ _) .nil))) rfl

theorem gives_minus (left right : List Value) :
    Gives "minus" [.set left, .set right] (.set (Members.difference left right)) := by
  have found : Registry.standard.find? "minus" = some (binary Declared.minus Arithmetic.minus) :=
    rfl
  have allowed : ∀ members : List Value,
      (Ty.any [.number, .set (some (.any []))]).Allows (.set members) := fun members => .inr
    (Ty.admits_any_of_mem (Ty.admits_setOfAny members) (List.mem_cons_of_mem _ List.mem_cons_self))
  exact Registry.gives_of_run found (by decide) (Registry.check_of_allows
    (.cons ((allowed left).named _ _) (.cons ((allowed right).named _ _) .nil))) rfl

/-! ## All sets in a set -/

section Name

variable (name : String)

theorem memberLists_map (argument : Value) (sets : List (List Value)) :
    memberLists name argument (sets.map .set) = .ok sets := by
  induction sets with
  | nil => rfl
  | cons first rest ih =>
      rw [List.map_cons, memberLists, ih]
      rfl

/-- The first member that is no set ends the reading. -/
theorem memberLists_fails (other : ∃ member ∈ members, member.kind ≠ .set) :
    memberLists name argument members = failed name (.notSetOfSets argument) := by
  induction members with
  | nil => simp at other
  | cons first rest ih =>
      cases first with
      | set inner =>
          obtain ⟨member, within, kind⟩ := other
          rcases List.mem_cons.mp within with rfl | later
          · exact absurd rfl kind
          · rw [memberLists, ih ⟨member, later, kind⟩]
            rfl
      | _ => rfl

/-- A set without other members is a set of sets. -/
theorem exists_sets (only : ¬∃ member ∈ members, member.kind ≠ .set) :
    ∃ sets : List (List Value), sets.map .set = members := by
  refine Value.exists_map_of_kind (fun value kind => ?_) only
  cases value with
  | set inner => exact ⟨inner, rfl⟩
  | _ => cases kind

theorem allows_setOfSets (sets : List (List Value)) (label : String) (text : Option String) :
    (Ty.named label text (.set (some (.set (some (.any [])))))).Allows (.set (sets.map .set)) := by
  refine .named (.inr ?_) label text
  rw [Ty.admits, List.all_map]
  exact List.all_eq_true.mpr fun members _ => Ty.admits_setOfAny members

end Name

theorem find?_union : Registry.standard.find? "union" =
    some (unary Declared.union (combineAll Members.unionAll)) := rfl

theorem find?_intersection : Registry.standard.find? "intersection" =
    some (unary Declared.intersection (combineAll Members.intersectionAll)) := rfl

theorem combineAll_map (operation : List (List Value) → List Value) (name : String)
    (sets : List (List Value)) :
    combineAll operation name (.set (sets.map .set)) = .ok (.set (operation sets)) := by
  rw [combineAll, Argument.set]
  simp only [bind, Except.bind, memberLists_map]
  rfl

theorem combineAll_fails (operation : List (List Value) → List Value) (name : String)
    (other : ∃ member ∈ members, member.kind ≠ .set) :
    ∃ cause, combineAll operation name (.set members) = failed name cause := by
  refine ⟨.notSetOfSets (.set members), ?_⟩
  rw [combineAll, Argument.set]
  simp only [bind, Except.bind, memberLists_fails name other]
  rfl

theorem gives_union (sets : List (List Value)) :
    Gives "union" [.set (sets.map .set)] (.set (Members.unionAll sets)) :=
  Registry.gives_of_run find?_union (by decide)
    (Registry.check_of_allows (.cons (allows_setOfSets sets _ _) .nil)) (combineAll_map _ _ _)

theorem gives_intersection (sets : List (List Value)) :
    Gives "intersection" [.set (sets.map .set)] (.set (Members.intersectionAll sets)) :=
  Registry.gives_of_run find?_intersection (by decide)
    (Registry.check_of_allows (.cons (allows_setOfSets sets _ _) .nil)) (combineAll_map _ _ _)

/-- **Combining all sets in a set fails exactly if the set has other members.** -/
theorem combining_fails_iff {name : String} (known : name ∈ ["union", "intersection"]) :
    (∃ cause, Fails name [.set members] cause) ↔ ∃ member ∈ members, member.kind ≠ .set := by
  constructor
  · rintro ⟨cause, fails⟩
    by_contra only
    obtain ⟨sets, rfl⟩ := exists_sets only
    rcases List.mem_pair.mp known with rfl | rfl
    · exact fails.not_gives _ (gives_union sets)
    · exact fails.not_gives _ (gives_intersection sets)
  · intro other
    rcases List.mem_pair.mp known with rfl | rfl
    · exact Registry.exists_fails_of_run find?_union (by decide) rfl
        (combineAll_fails _ _ other)
    · exact Registry.exists_fails_of_run find?_intersection (by decide) rfl
        (combineAll_fails _ _ other)

/-! ## Equal sets -/

/-- **Sets with the same values are equal.** -/
theorem equals_of_among_iff (formed : (Value.set left).WellFormed)
    (formed' : (Value.set right).WellFormed)
    (same : ∀ value : Value, value.Among left ↔ value.Among right) :
    (Value.set left).equals (.set right) = true :=
  Value.equalItems_of_among_iff formed.2 formed'.2 same

section Pair

variable (both : ∀ value : Value, value.Among (sets.map .set) ↔
  value.equals (.set left) = true ∨ value.equals (.set right) = true)

include both

/-- Each of two sets is in the set that has just these. -/
theorem exists_set_of_pair {one : List Value} (known : one = left ∨ one = right) :
    ∃ set ∈ sets, Value.equalItems one set = true := by
  have among : (Value.set one).Among (sets.map .set) := by
    refine (both _).mpr ?_
    rcases known with rfl | rfl
    · exact .inl (Value.equals_refl _)
    · exact .inr (Value.equals_refl _)
  obtain ⟨_, listed, same⟩ := among
  obtain ⟨set, within, rfl⟩ := List.mem_map.mp listed
  exact ⟨set, within, same⟩

/-- A set that has just two sets has nothing but these. -/
theorem equalItems_of_pair {set : List Value} (within : set ∈ sets) :
    Value.equalItems set left = true ∨ Value.equalItems set right = true :=
  (both (.set set)).mp (Value.among_of_mem (List.mem_map_of_mem within))

theorem exists_among_pair :
    (∃ set ∈ sets, value.Among set) ↔ value.Among left ∨ value.Among right := by
  constructor
  · rintro ⟨set, within, among⟩
    exact (equalItems_of_pair both within).imp (fun same => (Value.among_congr_right same).mp among)
      fun same => (Value.among_congr_right same).mp among
  · rintro (among | among)
    · obtain ⟨set, within, same⟩ := exists_set_of_pair both (.inl rfl)
      exact ⟨set, within, (Value.among_congr_right same).mp among⟩
    · obtain ⟨set, within, same⟩ := exists_set_of_pair both (.inr rfl)
      exact ⟨set, within, (Value.among_congr_right same).mp among⟩

theorem forall_among_pair :
    (∀ set ∈ sets, value.Among set) ↔ value.Among left ∧ value.Among right := by
  constructor
  · intro all
    obtain ⟨first, within, same⟩ := exists_set_of_pair both (.inl rfl)
    obtain ⟨second, within', same'⟩ := exists_set_of_pair both (.inr rfl)
    exact ⟨(Value.among_congr_right same).mpr (all first within),
      (Value.among_congr_right same').mpr (all second within')⟩
  · rintro ⟨one, two⟩ set within
    rcases equalItems_of_pair both within with same | same
    · exact (Value.among_congr_right same).mpr one
    · exact (Value.among_congr_right same).mpr two

end Pair

/-- **The builtins on sets compute the algebra of sets, up to equality.** Two sets have in common
what is in both, together what is in either, and as a difference what is in the first only; the
results are sets again. The union of all sets in a set has what is in any of them and, if there are
any, the intersection has what is in each; without sets both are empty. Both calls fail exactly if
something else than a set is in the set.

For a set of just two sets, in whatever order and spelling, these are the union and the intersection
of the two. What two sets have in common and the difference make up the first set again. -/
theorem set_algebra_exact :
    (∀ left right : List Value, ∃ common joined rest : List Value,
      Gives "and" [.set left, .set right] (.set common) ∧
      Gives "or" [.set left, .set right] (.set joined) ∧
      Gives "minus" [.set left, .set right] (.set rest) ∧
      (∀ value : Value,
        (value.Among common ↔ value.Among left ∧ value.Among right) ∧
        (value.Among joined ↔ value.Among left ∨ value.Among right) ∧
        (value.Among rest ↔ value.Among left ∧ ¬value.Among right)) ∧
      ((Value.set left).WellFormed → (Value.set right).WellFormed →
        (Value.set common).WellFormed ∧ (Value.set joined).WellFormed ∧
          (Value.set rest).WellFormed)) ∧
    (∀ sets : List (List Value), ∃ joined common : List Value,
      Gives "union" [.set (sets.map .set)] (.set joined) ∧
      Gives "intersection" [.set (sets.map .set)] (.set common) ∧
      (∀ value : Value, value.Among joined ↔ ∃ set ∈ sets, value.Among set) ∧
      (sets ≠ [] → ∀ value : Value, value.Among common ↔ ∀ set ∈ sets, value.Among set) ∧
      (sets = [] → common = []) ∧
      ((∀ set ∈ sets, (Value.set set).WellFormed) →
        (Value.set joined).WellFormed ∧ (Value.set common).WellFormed)) ∧
    (∀ (members : List Value), ∀ name ∈ ["union", "intersection"],
      ((∃ cause, Fails name [.set members] cause) ↔ ∃ member ∈ members, member.kind ≠ .set)) ∧
    (∀ left right pair : List Value, (Value.set left).WellFormed → (Value.set right).WellFormed →
      (Value.set pair).WellFormed →
      (∀ value : Value, value.Among pair ↔
        value.equals (.set left) = true ∨ value.equals (.set right) = true) →
      ∃ joined either common both : Value,
        Gives "union" [.set pair] joined ∧ Gives "or" [.set left, .set right] either ∧
        joined.equals either = true ∧
        Gives "intersection" [.set pair] common ∧ Gives "and" [.set left, .set right] both ∧
        common.equals both = true) ∧
    ∀ left right : List Value, (Value.set left).WellFormed → (Value.set right).WellFormed →
      ∃ common rest whole : Value,
        Gives "and" [.set left, .set right] common ∧ Gives "minus" [.set left, .set right] rest ∧
        Gives "or" [common, rest] whole ∧ whole.equals (.set left) = true := by
  refine ⟨?_, ?_, fun members name known => combining_fails_iff known, ?_, ?_⟩
  · intro left right
    refine ⟨_, _, _, gives_and left right, gives_or left right, gives_minus left right,
      fun value => ⟨Members.among_intersection, Members.among_union, Members.among_difference⟩,
      fun formed formed' => ⟨Members.wellFormed_intersection formed formed',
        Members.wellFormed_union formed formed', Members.wellFormed_difference formed right⟩⟩
  · intro sets
    refine ⟨_, _, gives_union sets, gives_intersection sets, fun value => Members.among_unionAll,
      fun some value => Members.among_intersectionAll some, ?_,
      fun all => ⟨Members.wellFormed_unionAll all, Members.wellFormed_intersectionAll all⟩⟩
    rintro rfl
    rfl
  · intro left right pair formed formed' formedPair both
    have only : ¬∃ member ∈ pair, member.kind ≠ .set := by
      rintro ⟨member, within, other⟩
      rcases (both member).mp (Value.among_of_mem within) with same | same
      · exact other (Value.kind_eq_of_equals same)
      · exact other (Value.kind_eq_of_equals same)
    obtain ⟨sets, rfl⟩ := exists_sets only
    have all : ∀ set ∈ sets, (Value.set set).WellFormed := fun set within =>
      (Value.wellFormed_set_iff.mp formedPair).1 _ (List.mem_map_of_mem within)
    have some : sets ≠ [] := by
      rintro rfl
      obtain ⟨_, within, _⟩ := exists_set_of_pair both (.inl rfl)
      cases within
    refine ⟨_, _, _, _, gives_union sets, gives_or left right, ?_, gives_intersection sets,
      gives_and left right, ?_⟩
    · refine equals_of_among_iff (Members.wellFormed_unionAll all)
        (Members.wellFormed_union formed formed') fun value => ?_
      rw [Members.among_unionAll, Members.among_union, exists_among_pair both]
    · refine equals_of_among_iff (Members.wellFormed_intersectionAll all)
        (Members.wellFormed_intersection formed formed') fun value => ?_
      rw [Members.among_intersectionAll some, Members.among_intersection, forall_among_pair both]
  · intro left right formed formed'
    refine ⟨_, _, _, gives_and left right, gives_minus left right, gives_or _ _, ?_⟩
    have common := Members.wellFormed_intersection formed formed'
    have rest := Members.wellFormed_difference formed right
    refine equals_of_among_iff (Members.wellFormed_union common rest) formed fun value => ?_
    rw [Members.among_union, Members.among_intersection, Members.among_difference, ← and_or_left]
    exact and_iff_left (Classical.em _)

/-- Two sets that share a number in two representations, the set of both, and a set with a member
that is no set. -/
theorem set_algebra_exact_spelling :
    let two : Value := .number (.float (.ofBits 0x4000000000000000))
    let left : List Value := [.ofInt 1, .ofInt 2]
    let right : List Value := [two, .string "a"]
    ((Value.set left).WellFormed ∧ (Value.set right).WellFormed ∧
      (∃ common : List Value,
        Gives "intersection" [.set ([left, right].map .set)] (.set common) ∧ two.Among common) ∧
      (∃ joined either : Value, Gives "union" [.set [.set left, .set right]] joined ∧
        Gives "or" [.set left, .set right] either ∧ joined.equals either = true) ∧
      ∃ common rest whole : Value,
        Gives "and" [.set left, .set right] common ∧ Gives "minus" [.set left, .set right] rest ∧
        Gives "or" [common, rest] whole ∧ whole.equals (.set left) = true) ∧
    ∃ cause, Fails "union" [.set [.null, .set []]] cause := by
  intro two left right
  obtain ⟨_, many, fails, pairs, parts⟩ := set_algebra_exact
  have spelled : two.equals (.ofInt 2) = true := by decide +kernel
  have formed : (Value.set left).WellFormed := by
    refine ⟨⟨trivial, trivial, trivial⟩, List.pairwise_pair.mpr ?_⟩
    decide +kernel
  have formed' : (Value.set right).WellFormed :=
    ⟨⟨trivial, trivial, trivial⟩, List.pairwise_pair.mpr rfl⟩
  have formedPair : (Value.set [.set left, .set right]).WellFormed := by
    refine ⟨⟨formed, formed', trivial⟩, List.pairwise_pair.mpr ?_⟩
    decide +kernel
  refine ⟨⟨formed, formed', ?_, ?_, parts left right formed formed'⟩, ?_⟩
  · obtain ⟨_, common, _, gives, _, among, _⟩ := many [left, right]
    refine ⟨common, gives, (among (List.cons_ne_nil _ _) two).mpr ?_⟩
    simp [left, right, spelled]
  · obtain ⟨joined, either, _, _, union, or, same, _⟩ :=
      pairs left right [.set left, .set right] formed formed' formedPair fun value => by simp
    exact ⟨joined, either, union, or, same⟩
  · exact (fails _ "union" (by decide)).mpr ⟨.null, List.mem_cons_self, by decide⟩

end Rego.Builtin.Collections
