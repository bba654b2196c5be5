import Mathlib.Data.List.GetD
import Rego.Proofs.Builtin.Calls
import Rego.Proofs.Number.Exact
import Rego.Proofs.Value.Canonical

/-!
# Calls that look up

There are several ways to ask what a container holds: looking up a key, asking whether a value is
held at a key or anywhere, and following a path of keys with a default. The positions of an array
are the numbers that denote them, in whatever representation (`lookup_of_denotes`), and other
numbers find nothing (`lookup_of_absent`). A value is held at a key when looking up the key gives it
(`holdsAt_eq`), and it is held when it is held at some key (`holds_iff`). A path of keys leads to a
place when each of its keys gives something (`Leads`), and where it does not the default is given
instead. So all of them agree (`lookups_agree`).
-/

namespace Rego

set_option autoImplicit false

open Fields (get?)

namespace Value

variable {items : List Value} {number : Number}

/-! ## Positions -/

/-- Numbers that denote no position in an array find nothing. -/
theorem lookup_of_absent
    (absent : ∀ position : Nat, number.Denotes position → items.length ≤ position) :
    (array items).lookup (.number number) = .undefined := by
  rw [lookup]
  split
  · rename_i position read
    have beyond := absent position (Number.toUnsigned?_eq_some_iff.mp read).1
    exact List.getD_eq_default _ _ beyond
  · rfl

/-- **The item at a position is found under every number that denotes the position.** -/
theorem lookup_of_denotes (small : items.length ≤ 2 ^ 64) {position : Nat}
    (denotes : number.Denotes position) :
    (array items).lookup (.number number) = items.getD position .undefined := by
  by_cases inside : position < items.length
  · have fits : position < 2 ^ 64 := Nat.lt_of_lt_of_le inside small
    rw [lookup, Number.toUnsigned?_eq_some_iff.mpr ⟨denotes, fits⟩]
  · have beyond : items.length ≤ position := Nat.le_of_not_lt inside
    rw [List.getD_eq_default _ _ beyond]
    refine lookup_of_absent fun other denotes' => ?_
    rwa [← Int.ofNat_inj.mp (denotes.unique denotes')]

/-! ## Paths -/

/-- Looking up the keys of a path one after the other leads from a value to a place, and each of
them gives something. -/
inductive Leads : Value → List Value → Value → Prop where
  | here (place : Value) : Leads place [] place
  | further {value key place : Value} {path : List Value} (defined : value.lookup key ≠ .undefined)
      (leads : Leads (value.lookup key) path place) : Leads value (key :: path) place

theorem isUndefined_eq_false {value : Value} (defined : value ≠ .undefined) :
    value.isUndefined = false := by
  cases value with
  | undefined => exact absurd rfl defined
  | _ => rfl

theorem undefined_equals {value : Value} (defined : value ≠ .undefined) :
    undefined.equals value = false := by
  cases value with
  | undefined => exact absurd rfl defined
  | _ => rfl

end Value

namespace Builtin.Collections

open Registry (Gives)
open Value (Leads)

variable {value key container place fallback : Value} {path items : List Value}
  {fields : List (Value × Value)}

theorem reach_undefined (path : List Value) : reach .undefined path = .undefined := by
  induction path with
  | nil => rfl
  | cons key path ih => exact ih

/-- A path leads to the defined value that is reached along it. -/
theorem leads_iff (defined : value ≠ .undefined) :
    Leads value path place ↔ reach value path = place ∧ place ≠ .undefined := by
  induction path generalizing value with
  | nil =>
      constructor
      · rintro ⟨⟩
        exact ⟨rfl, defined⟩
      · rintro ⟨rfl, _⟩
        exact .here _
  | cons key path ih =>
      have step : reach value (key :: path) = reach (value.lookup key) path := rfl
      rw [step]
      by_cases there : value.lookup key = .undefined
      · rw [there, reach_undefined]
        constructor
        · rintro (_ | ⟨found, _⟩)
          exact absurd there found
        · rintro ⟨rfl, found⟩
          exact absurd rfl found
      · rw [← ih there]
        constructor
        · rintro (_ | ⟨_, leads⟩)
          exact leads
        · exact .further there

/-! ## Membership -/

theorem holdsAt_array (defined : value ≠ .undefined) (key : Value) (items : List Value) :
    holdsAt key value (.array items) = ((Value.array items).lookup key).equals value := by
  have nothing : Value.undefined.equals value = false := Value.undefined_equals defined
  cases key with
  | number position =>
      rw [holdsAt, Value.lookup]
      cases position.toUnsigned? with
      | none => exact nothing.symm
      | some index =>
          simp only [Option.bind_some, List.getD_eq_getElem?_getD]
          cases items[index]? with
          | none => exact nothing.symm
          | some item => rfl
  | _ => exact nothing.symm

theorem holdsAt_object (defined : value ≠ .undefined) (key : Value)
    (fields : List (Value × Value)) :
    holdsAt key value (.object fields) = ((Value.object fields).lookup key).equals value := by
  rw [holdsAt, Value.lookup]
  cases get? key fields with
  | none => exact (Value.undefined_equals defined).symm
  | some item => rfl

/-- **What is held at a key is what looking up the key gives.** -/
theorem holdsAt_eq (kind : container.kind = .array ∨ container.kind = .object)
    (defined : value ≠ .undefined) (key : Value) :
    holdsAt key value container = (container.lookup key).equals value := by
  cases container with
  | array items => exact holdsAt_array defined key items
  | object fields => exact holdsAt_object defined key fields
  | _ => rcases kind with kind | kind <;> cases kind

theorem holdsAt_object_iff :
    holdsAt key value (.object fields) = true ↔
      ∃ item, get? key fields = some item ∧ item.equals value = true := by
  rw [holdsAt]
  cases get? key fields <;> simp

/-- Nothing is held at a number that denotes no position. -/
theorem holdsAt_of_absent {number : Number}
    (absent : ∀ position : Nat, number.Denotes position → items.length ≤ position)
    (value : Value) : holdsAt (.number number) value (.array items) = false := by
  rw [holdsAt]
  cases read : number.toUnsigned? with
  | none => rfl
  | some position =>
      have beyond := absent position (Number.toUnsigned?_eq_some_iff.mp read).1
      rw [Option.bind_some, List.getElem?_eq_none beyond]

/-- What is held at a position is an item with this position. -/
theorem exists_item_of_holdsAt (held : holdsAt key value (.array items) = true) :
    ∃ item ∈ items, item.equals value = true := by
  cases key with
  | number position =>
      rw [holdsAt] at held
      cases found : position.toUnsigned?.bind fun index => items[index]? with
      | none => simp [found] at held
      | some item =>
          obtain ⟨index, _, there⟩ := Option.bind_eq_some_iff.mp found
          rw [found] at held
          exact ⟨item, List.mem_of_getElem? there, held⟩
  | _ => cases held

/-- Every item of an array is held at its position. -/
theorem holds_array_iff (small : items.length ≤ 2 ^ 64) :
    holds value (.array items) = true ↔ ∃ key, holdsAt key value (.array items) = true := by
  rw [holds, List.any_eq_true]
  constructor
  · rintro ⟨item, within, same⟩
    obtain ⟨index, inside, rfl⟩ := List.mem_iff_getElem.mp within
    have read : (Number.ofInt index).toUnsigned? = some index :=
      Number.toUnsigned?_eq_some_iff.mpr
        ⟨Number.denotes_ofInt index, Nat.lt_of_lt_of_le inside small⟩
    refine ⟨.number (.ofInt index), ?_⟩
    rw [holdsAt, read, Option.bind_some, List.getElem?_eq_getElem inside]
    exact same
  · rintro ⟨key, held⟩
    exact exists_item_of_holdsAt held

/-- Every field of an object is held at its key. -/
theorem holds_object_iff (ascending : Fields.Ascending fields) :
    holds value (.object fields) = true ↔ ∃ key, holdsAt key value (.object fields) = true := by
  rw [holds, List.any_eq_true]
  constructor
  · rintro ⟨field, within, same⟩
    exact ⟨field.1, holdsAt_object_iff.mpr ⟨_, Fields.get?_of_mem ascending within, same⟩⟩
  · rintro ⟨key, held⟩
    obtain ⟨item, found, same⟩ := holdsAt_object_iff.mp held
    obtain ⟨stored, within, _⟩ := Fields.exists_mem_of_get? found
    exact ⟨(stored, item), within, same⟩

/-- **What is held is held at some key.** -/
theorem holds_iff (kind : container.kind = .array ∨ container.kind = .object)
    (formed : container.WellFormed)
    (small : ∀ items, container = .array items → items.length ≤ 2 ^ 64) :
    holds value container = true ↔ ∃ key, holdsAt key value container = true := by
  cases container with
  | array items => exact holds_array_iff (small items rfl)
  | object fields => exact holds_object_iff (Value.wellFormed_object_iff.mp formed).2
  | _ => rcases kind with kind | kind <;> cases kind

/-! ## Calls -/

theorem gives_member2 (value container : Value) :
    Gives "internal.member_2" [value, container] (.bool (holds value container)) := by
  have found : Registry.standard.find? "internal.member_2" = some (binary Declared.internalMember2
      fun _ value container => .ok (.bool (holds value container))) := rfl
  exact Registry.gives_of_run found (by decide) (Registry.check_of_allows
    (.cons (.inr (Ty.admits_any _)) (.cons (.inr (Ty.admits_any _)) .nil))) rfl

theorem gives_member3 (key value container : Value) :
    Gives "internal.member_3" [key, value, container] (.bool (holdsAt key value container)) := by
  have found : Registry.standard.find? "internal.member_3" = some (ternary Declared.internalMember3
      fun _ key value container => .ok (.bool (holdsAt key value container))) := rfl
  exact Registry.gives_of_run found (by decide) (Registry.check_of_allows
    (.cons (.inr (Ty.admits_any _)) (.cons (.inr (Ty.admits_any _))
      (.cons (.inr (Ty.admits_any _)) .nil)))) rfl

theorem gives_member3_true_iff :
    Gives "internal.member_3" [key, value, container] (.bool true) ↔
      holdsAt key value container = true := by
  have gives := gives_member3 key value container
  constructor
  · intro true
    exact Value.bool.inj (gives.unique true)
  · intro held
    rwa [held] at gives

section Get

variable (fields : List (Value × Value)) (key fallback : Value) (path : List Value)

theorem allows_get : List.Forall₂ Ty.Allows Declared.objectGet.declaration.arguments
    [.object fields, key, fallback] :=
  .cons (.named (.inr (Ty.admits_objectOfAny fields)) _ _)
    (.cons (.named (.inr (Ty.admits_any key)) _ _)
      (.cons (.named (.inr (Ty.admits_any fallback)) _ _) .nil))

theorem find?_objectGet :
    Registry.standard.find? "object.get" = some (ternary Declared.objectGet get) := rfl

theorem gives_get_path : Gives "object.get" [.object fields, .array path, fallback]
    (if (reach (.object fields) path).isUndefined then fallback
      else reach (.object fields) path) :=
  Registry.gives_of_run find?_objectGet (by decide)
    (Registry.check_of_allows (allows_get fields (.array path) fallback)) rfl

/-- A key that is no path is looked up among the fields. -/
theorem gives_get_key (single : key.kind ≠ .array) :
    Gives "object.get" [.object fields, key, fallback] ((get? key fields).getD fallback) := by
  refine Registry.gives_of_run find?_objectGet (by decide)
    (Registry.check_of_allows (allows_get fields key fallback)) ?_
  cases key with
  | array path => exact absurd rfl single
  | _ => rfl

/-- A key of an object of defined values is looked up as the path of this key alone. -/
theorem gives_get_single (defined : ∀ field ∈ fields, field.2 ≠ .undefined) :
    Gives "object.get" [.object fields, .array [key], fallback]
      ((get? key fields).getD fallback) := by
  have gives := gives_get_path fields fallback [key]
  have reached : reach (.object fields) [key] = (get? key fields).getD .undefined := rfl
  rw [reached] at gives
  cases found : get? key fields with
  | none => rwa [found] at gives
  | some item =>
      obtain ⟨stored, within, _⟩ := Fields.exists_mem_of_get? found
      have defined' := Value.isUndefined_eq_false (defined (stored, item) within)
      rwa [found, Option.getD_some, defined', if_neg Bool.false_ne_true] at gives

end Get

theorem gives_get_of_leads (leads : Leads (.object fields) path place) (fallback : Value) :
    Gives "object.get" [.object fields, .array path, fallback] place := by
  have object : Value.object fields ≠ .undefined := nofun
  obtain ⟨reached, defined⟩ := (leads_iff object).mp leads
  have gives := gives_get_path fields fallback path
  rwa [reached, Value.isUndefined_eq_false defined, if_neg Bool.false_ne_true] at gives

theorem gives_get_of_not_leads (nowhere : ∀ place, ¬Leads (.object fields) path place)
    (fallback : Value) : Gives "object.get" [.object fields, .array path, fallback] fallback := by
  have object : Value.object fields ≠ .undefined := nofun
  have nothing : reach (.object fields) path = .undefined := by
    by_contra defined
    exact nowhere _ ((leads_iff object).mpr ⟨rfl, defined⟩)
  have gives := gives_get_path fields fallback path
  rwa [nothing] at gives

/-- **All ways to look something up agree.** A value is held at a key of an array or an object when
looking up the key gives an equal one, and it is held at all when it is held at some key. A path of
keys gives what it leads to from an object, and the default if there is no such place. A key that is
no path gives the same as the path of this key alone, unless the object holds something undefined.

An array is one that fits into memory, with at most `2 ^ 64` items. The item at a position is found
under every number of this value; a number that is the value of no position, being negative, no
integer or too large, finds nothing. -/
theorem lookups_agree :
    (∀ key value container : Value, container.kind = .array ∨ container.kind = .object →
      value ≠ .undefined → Gives "internal.member_3" [key, value, container]
        (.bool ((container.lookup key).equals value))) ∧
    (∀ value container : Value, container.kind = .array ∨ container.kind = .object →
      container.WellFormed → (∀ items, container = .array items → items.length ≤ 2 ^ 64) →
      ∃ held : Bool, Gives "internal.member_2" [value, container] (.bool held) ∧
        (held = true ↔ ∃ key, Gives "internal.member_3" [key, value, container] (.bool true))) ∧
    (∀ (fields : List (Value × Value)) (path : List Value) (fallback : Value),
      (∀ place, Leads (.object fields) path place →
        Gives "object.get" [.object fields, .array path, fallback] place) ∧
      ((∀ place, ¬Leads (.object fields) path place) →
        Gives "object.get" [.object fields, .array path, fallback] fallback)) ∧
    (∀ (fields : List (Value × Value)) (key fallback : Value),
      (∀ field ∈ fields, field.2 ≠ .undefined) → key.kind ≠ .array → ∃ found : Value,
        Gives "object.get" [.object fields, key, fallback] found ∧
        Gives "object.get" [.object fields, .array [key], fallback] found) ∧
    ∀ (items : List Value) (number : Number), items.length ≤ 2 ^ 64 →
      (∀ position : Nat, number.Denotes position →
        (Value.array items).lookup (.number number) = items.getD position .undefined ∧
        (Value.array items).lookupPosition position = items.getD position .undefined) ∧
      ((∀ position : Nat, number.Denotes position → items.length ≤ position) →
        (Value.array items).lookup (.number number) = .undefined ∧
        ∀ value, Gives "internal.member_3" [.number number, value, .array items]
          (.bool false)) := by
  refine ⟨fun key value container kind defined => ?_, fun value container kind formed small => ?_,
    fun fields path fallback => ⟨fun place leads => gives_get_of_leads leads fallback,
      fun nowhere => gives_get_of_not_leads nowhere fallback⟩,
    fun fields key fallback defined single => ?_, fun items number small =>
      ⟨fun position denotes => ⟨Value.lookup_of_denotes small denotes, rfl⟩, fun absent => ?_⟩⟩
  · rw [← holdsAt_eq kind defined key]
    exact gives_member3 key value container
  · refine ⟨holds value container, gives_member2 value container, ?_⟩
    rw [holds_iff kind formed small]
    exact exists_congr fun key => gives_member3_true_iff.symm
  · exact ⟨(get? key fields).getD fallback, gives_get_key fields key fallback single,
      gives_get_single fields key fallback defined⟩
  · refine ⟨Value.lookup_of_absent absent, fun value => ?_⟩
    rw [← holdsAt_of_absent absent value]
    exact gives_member3 (.number number) value (.array items)

/-- A path into an array and on into a set, with the position and the member spelled as floating
numbers, and positions that are no integer or negative. -/
theorem lookups_agree_nested :
    let zero : Number := .float (.ofBits 0)
    let half : Number := .float (.ofBits 0x3FE0000000000000)
    let two : Value := .number (.float (.ofBits 0x4000000000000000))
    let items : List Value := [.set [.ofInt 1, .ofInt 2], .ofInt 5]
    let fields : List (Value × Value) := [(.string "a", .array items)]
    let path : List Value := [.string "a", .number zero, two]
    (Value.array items).WellFormed ∧ zero.Denotes 0 ∧ Leads (.object fields) path (.ofInt 2) ∧
      Gives "object.get" [.object fields, .array path, .null] (.ofInt 2) ∧
      Gives "object.get" [.object fields, .array [.string "a", .ofInt (-1), two], .null] .null ∧
      Gives "internal.member_3" [.ofInt 1, .number (.float (.ofBits 0x4014000000000000)),
        .array items] (.bool true) ∧
      (∃ held : Bool, Gives "internal.member_2" [.ofInt 5, .array items] (.bool held) ∧
        (held = true ↔ ∃ key, Gives "internal.member_3" [key, .ofInt 5, .array items]
          (.bool true))) ∧
      (∃ found : Value, Gives "object.get" [.object fields, .string "a", .null] found ∧
        Gives "object.get" [.object fields, .array [.string "a"], .null] found) ∧
      (Value.array items).lookup (.number zero) = .set [.ofInt 1, .ofInt 2] ∧
      ∀ value, Gives "internal.member_3" [.number half, value, .array items] (.bool false) := by
  intro zero half two items fields path
  obtain ⟨at_key, anywhere, along, single, positions⟩ := lookups_agree
  have formed : (Value.array items).WellFormed :=
    ⟨⟨⟨trivial, trivial, trivial⟩, List.pairwise_pair.mpr (by decide +kernel)⟩, trivial, trivial⟩
  have small : items.length ≤ 2 ^ 64 := by decide
  have none : zero.Denotes 0 := Number.toInt?_eq_some_iff.mp (by decide +kernel)
  have item : (Value.array items).lookup (.number zero) = .set [.ofInt 1, .ofInt 2] :=
    ((positions items zero small).1 0 none).1
  have member : (Value.set [.ofInt 1, .ofInt 2]).lookup two = .ofInt 2 := by
    have first : (two.compare (.ofInt 1) == .eq) = false := by decide +kernel
    have second : (two.compare (.ofInt 2) == .eq) = true := by decide +kernel
    simp only [Value.lookup, Members.find?, List.find?_cons, first, second, Option.getD_some]
  have leads : Leads (.object fields) path (.ofInt 2) := by
    have under : (Value.object fields).lookup (.string "a") = .array items := rfl
    refine .further nofun ?_
    rw [under]
    refine .further (item.trans_ne nofun) ?_
    rw [item]
    refine .further (member.trans_ne nofun) ?_
    rw [member]
    exact .here _
  have nowhere : ∀ place, ¬Leads (.object fields) [.string "a", .ofInt (-1), two] place := by
    rintro place (_ | ⟨_, _ | ⟨found, _⟩⟩)
    exact found (by rfl)
  have absent : ∀ position : Nat, half.Denotes position → items.length ≤ position := by
    intro position denotes
    have integral := Number.toInt?_eq_some_iff.mpr denotes
    rw [show half.toInt? = .none by decide +kernel] at integral
    cases integral
  refine ⟨formed, none, leads, (along fields path .null).1 _ leads,
    (along fields _ .null).2 nowhere, ?_, ?_, ?_, ?_, ?_⟩
  · have gives := at_key (.ofInt 1) (.number (.float (.ofBits 0x4014000000000000)))
      (.array items) (.inl rfl) nofun
    rwa [show Value.equals _ _ = true by decide +kernel] at gives
  · exact anywhere (.ofInt 5) (.array items) (.inl rfl) formed
      fun others same => Value.array.inj same ▸ small
  · exact single fields (.string "a") .null (List.forall_mem_singleton.mpr nofun) nofun
  · exact item
  · exact ((positions items half small).2 absent).2

end Builtin.Collections

end Rego
