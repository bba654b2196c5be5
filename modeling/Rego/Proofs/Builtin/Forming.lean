import Rego.Proofs.Builtin.Declarations
import Rego.Proofs.Value.Canonical

/-!
# What builtins make of well-formed arguments

A builtin is forming when it makes well-formed values of well-formed arguments
(`Builtin.Forming`). Most declarations promise as much by themselves: values of flat types, which
are plain ones and arrays of these, have neither members nor keys (`Metadata.Promises.wellFormed`).
What remains are the builtins that build sets and objects, pass parts of their arguments on, or
arrange them in arrays (`structured_builtins`).
-/

namespace Rego

set_option autoImplicit false

/-! ## Flat types -/

namespace Ty

/-- Whether a type is one of plain values, under whatever name. -/
def isPlain (type : Ty) : Bool :=
  match type.unnamed with
  | .null | .boolean | .string | .number => true
  | _ => false

/-- Whether a type is one of plain values or of arrays of these, under whatever name. -/
def isFlat (type : Ty) : Bool :=
  match type.unnamed with
  | .array [] (some item) => item.isPlain
  | other => other.isPlain

theorem wellFormed_of_isPlain {type : Ty} {value : Value} (plain : type.isPlain = true)
    (admitted : type.admits value = true) : value.WellFormed := by
  rw [← admits_unnamed] at admitted
  unfold isPlain at plain
  cases known : type.unnamed with
  | null | boolean | string | number =>
      rw [known] at admitted
      cases value <;> trivial
  | _ => rw [known] at plain; cases plain

theorem wellFormed_of_isFlat {type : Ty} {value : Value} (flat : type.isFlat = true)
    (admitted : type.admits value = true) : value.WellFormed := by
  rw [← admits_unnamed] at admitted
  unfold isFlat at flat
  split at flat
  · rename_i item known
    rw [known] at admitted
    cases value with
    | array items =>
        rw [admits_arrayOf] at admitted
        exact Value.wellFormed_array_iff.mpr fun member within =>
          wellFormed_of_isPlain flat (List.all_eq_true.mp admitted member within)
    | _ => cases admitted
  · exact wellFormed_of_isPlain flat admitted

end Ty

/-- Whether the declared type of results is flat. -/
def Metadata.givesFlat (metadata : Metadata) : Bool := metadata.declaration.result.any Ty.isFlat

/-- Where the declared type is flat, promised values are well-formed. -/
theorem Metadata.Promises.wellFormed {metadata : Metadata} {value : Value}
    (promised : metadata.Promises value) (flat : metadata.givesFlat = true) : value.WellFormed := by
  obtain ⟨type, declared, allowed⟩ := promised
  unfold givesFlat at flat
  rw [declared, Option.any_some] at flat
  rcases allowed with rfl | admitted
  · trivial
  · exact type.wellFormed_of_isFlat flat admitted

/-! ## Builtins -/

/-- A computation of a value yields well-formed ones. -/
abbrev Forms (outcome : Outcome) : Prop := Yields Value.WellFormed outcome

namespace Builtin

/-- Applied to well-formed arguments, as many as declared, a builtin yields well-formed values. -/
def Forming (builtin : Builtin) : Prop :=
  ∀ context arguments query, arguments.length = builtin.metadata.arity →
    (∀ argument ∈ arguments, argument.WellFormed) →
      ∀ value, (builtin.implementation.run context arguments query).1 = .ok value →
        value.WellFormed

theorem SoundUnless.forming {overtaxes : List Value → Cause → Prop} {builtin : Builtin}
    (sound : builtin.SoundUnless overtaxes) (flat : builtin.metadata.givesFlat = true) :
    builtin.Forming := by
  intro context arguments query counted _ value given
  rcases sound.returns context arguments query counted with yields | ⟨_, _, aborts⟩
  · exact (yields.of_ok given).wellFormed flat
  · rw [given] at aborts
    cases aborts

variable {metadata : Metadata}

theorem forming_unary {run : String → Value → Outcome} (arity : metadata.arity = 1)
    (forms : ∀ argument : Value, argument.WellFormed → Forms (run metadata.name argument)) :
    (unary metadata run).Forming := by
  intro context arguments query counted formed value given
  match arguments, counted.trans arity with
  | [argument], _ => exact (forms argument (formed argument List.mem_cons_self)).of_ok given

theorem forming_binary {run : String → Value → Value → Outcome} (arity : metadata.arity = 2)
    (forms : ∀ first second : Value, first.WellFormed → second.WellFormed →
      Forms (run metadata.name first second)) :
    (binary metadata run).Forming := by
  intro context arguments query counted formed value given
  match arguments, counted.trans arity with
  | [first, second], _ =>
      obtain ⟨one, two, _⟩ := Value.allWellFormed_iff.mpr formed
      exact (forms first second one two).of_ok given

theorem forming_ternary {run : String → Value → Value → Value → Outcome}
    (arity : metadata.arity = 3)
    (forms : ∀ first second third : Value, first.WellFormed → second.WellFormed →
      third.WellFormed → Forms (run metadata.name first second third)) :
    (ternary metadata run).Forming := by
  intro context arguments query counted formed value given
  match arguments, counted.trans arity with
  | [first, second, third], _ =>
      obtain ⟨one, two, three, _⟩ := Value.allWellFormed_iff.mpr formed
      exact (forms first second third one two three).of_ok given

/-! ## Differences, extremes and sorting -/

theorem Arithmetic.forms_minus (name : String) {left right : Value} (formed : left.WellFormed) :
    Forms (minus name left right) := by
  unfold minus
  split
  · exact Members.wellFormed_difference formed _
  · exact .failed _ _
  · exact .failed _ _
  · refine (returns_combine name Number.sub _ _).mono fun value allowed => ?_
    rcases allowed with rfl | admitted
    · trivial
    · exact Ty.wellFormed_of_isPlain rfl admitted

namespace Ordering

variable {allowed : Value → Prop} {values : List Value}

/-- Keeping one of two values at each step ends with one of all values. -/
theorem forall_foldl_choose {choose : Value → Value → Value}
    (chooses : ∀ best item, choose best item = best ∨ choose best item = item) {first : Value}
    (all : ∀ value ∈ first :: values, allowed value) : allowed (values.foldl choose first) := by
  obtain ⟨here, later⟩ := List.forall_mem_cons.mp all
  refine List.foldlRecOn (motive := allowed) values choose here fun best before item within => ?_
  rcases chooses best item with same | same
  · rw [same]
    exact before
  · rw [same]
    exact later item within

/-- The greatest of values is one of them, or undefined. -/
theorem forall_greatest (undefined : allowed .undefined) (all : ∀ value ∈ values, allowed value) :
    allowed (greatest values) := by
  cases values with
  | nil => exact undefined
  | cons first rest => exact forall_foldl_choose (fun _ _ => ite_eq_or_eq _ _ _) all

/-- The least of values is one of them, or undefined. -/
theorem forall_least (undefined : allowed .undefined) (all : ∀ value ∈ values, allowed value) :
    allowed (least values) := by
  cases values with
  | nil => exact undefined
  | cons first rest => exact forall_foldl_choose (fun _ _ => (ite_eq_or_eq _ _ _).symm) all

theorem forms_max (name : String) {collection : Value} (formed : collection.WellFormed) :
    Forms (max name collection) := by
  cases collection with
  | array items => exact forall_greatest trivial (Value.wellFormed_array_iff.mp formed)
  | set members =>
      cases last : members.getLast? with
      | none =>
          simp only [max, last]
          trivial
      | some member =>
          simp only [max, last]
          exact (Value.wellFormed_set_iff.mp formed).1 member (List.mem_of_getLast? last)
  | _ => exact .failed _ _

theorem forms_min (name : String) {collection : Value} (formed : collection.WellFormed) :
    Forms (min name collection) := by
  cases collection with
  | array items => exact forall_least trivial (Value.wellFormed_array_iff.mp formed)
  | set members =>
      cases members with
      | nil => trivial
      | cons member rest => exact formed.1.1
  | _ => exact .failed _ _

theorem forms_sort (name : String) {collection : Value} (formed : collection.WellFormed) :
    Forms (sort name collection) := by
  cases collection with
  | array items =>
      have all := Value.wellFormed_array_iff.mp formed
      exact Value.wellFormed_array_iff.mpr fun item within =>
        all item (List.mem_mergeSort.mp within)
  | set members => exact formed.1
  | _ => exact .failed _ _

end Ordering

/-! ## Arrays, objects and sets -/

namespace Collections

open Argument

variable (name : String)

theorem forms_concat {left right : Value} (formed : left.WellFormed) (formed' : right.WellFormed) :
    Forms (concat name left right) := by
  refine (yields_array name left).bind fun items read => ?_
  refine (yields_array name right).bind fun others read' => ?_
  rw [read, Value.wellFormed_array_iff] at formed
  rw [read', Value.wellFormed_array_iff] at formed'
  exact Value.wellFormed_array_iff.mpr (List.forall_mem_append.mpr ⟨formed, formed'⟩)

theorem forms_reverse {array : Value} (formed : array.WellFormed) :
    Forms (reverse name array) := by
  refine (yields_array name array).bind fun items read => ?_
  rw [read, Value.wellFormed_array_iff] at formed
  exact Value.wellFormed_array_iff.mpr fun item within => formed item (List.mem_reverse.mp within)

theorem forms_slice {array : Value} (formed : array.WellFormed) (start stop : Value) :
    Forms (slice name array start stop) := by
  refine (yields_array name array).bind fun items read => ?_
  refine (yields_number name start).bind fun first _ => ?_
  refine (yields_number name stop).bind fun last _ => ?_
  rw [read, Value.wellFormed_array_iff] at formed
  exact Value.wellFormed_array_iff.mpr fun item within =>
    formed item (List.mem_of_mem_take (List.mem_of_mem_drop within))

theorem wellFormed_reach {value : Value} (formed : value.WellFormed) (path : List Value) :
    (reach value path).WellFormed :=
  List.foldlRecOn (motive := Value.WellFormed) path Value.lookup formed
    fun _ before key _ => Value.wellFormed_lookup before key

theorem forms_get {object fallback : Value} (formed : object.WellFormed) (key : Value)
    (formed' : fallback.WellFormed) : Forms (get name object key fallback) := by
  refine (yields_object name object).bind fun fields read => ?_
  split
  · rename_i path
    have chosen : (if (reach object path).isUndefined then fallback
        else reach object path).WellFormed := by
      split
      · exact formed'
      · exact wellFormed_reach formed path
    exact chosen
  · rw [read] at formed
    exact Fields.wellFormed_getD formed formed'

theorem forms_keys {object : Value} (formed : object.WellFormed) :
    Forms (keys name object) := by
  refine (yields_object name object).bind fun fields read => ?_
  rw [read] at formed
  exact Fields.wellFormed_keys formed

theorem forms_objectUnion {left right : Value} (formed : left.WellFormed)
    (formed' : right.WellFormed) : Forms (objectUnion name left right) := by
  refine (yields_object name left).bind fun _ _ => ?_
  refine (yields_object name right).bind fun _ _ => ?_
  exact Value.wellFormed_union right left formed formed'

theorem forms_unionItems {items : List Value} (all : ∀ item ∈ items, item.WellFormed) (index : Nat)
    {merged : Value} (formed : merged.WellFormed) :
    Forms (unionItems name index merged items) := by
  induction items generalizing index merged with
  | nil => exact formed
  | cons item rest ih =>
      obtain ⟨here, later⟩ := List.forall_mem_cons.mp all
      cases item with
      | object fields => exact ih later _ (Value.wellFormed_union _ merged formed here)
      | _ => exact .failed _ _

theorem forms_objectUnionAll {array : Value} (formed : array.WellFormed) :
    Forms (objectUnionAll name array) := by
  refine (yields_array name array).bind fun items read => ?_
  rw [read, Value.wellFormed_array_iff] at formed
  exact forms_unionItems name formed 0 ⟨trivial, .nil⟩

theorem forms_combine {operation : List Value → List Value → List Value}
    (combines : ∀ {left right : List Value}, (Value.set left).WellFormed →
      (Value.set right).WellFormed → (Value.set (operation left right)).WellFormed)
    {left right : Value} (formed : left.WellFormed) (formed' : right.WellFormed) :
    Forms (combine name operation left right) := by
  refine (yields_set name left).bind fun members read => ?_
  refine (yields_set name right).bind fun others read' => ?_
  rw [read] at formed
  rw [read'] at formed'
  exact combines formed formed'

theorem forms_combineAll {operation : List (List Value) → List Value}
    (combines : ∀ {sets : List (List Value)}, (∀ set ∈ sets, (Value.set set).WellFormed) →
      (Value.set (operation sets)).WellFormed)
    {argument : Value} (formed : argument.WellFormed) :
    Forms (combineAll operation name argument) := by
  refine (yields_set name argument).bind fun members read => ?_
  refine (yields_memberLists name argument members).bind fun sets read' => ?_
  rw [read, read', Value.wellFormed_set_iff] at formed
  exact combines fun set within => formed.1 _ (List.mem_map_of_mem within)

end Collections

/-! ## Identifiers -/

namespace Encodings

theorem wellFormed_describe (identifier : List UInt8) : (describe identifier).WellFormed := by
  refine Fields.wellFormed_ofNamed ?_
  simp only [List.forall_mem_append]
  refine ⟨⟨⟨?always, ?time⟩, ?node⟩, ?owner⟩
  case always => exact List.forall_mem_cons.mpr ⟨trivial, List.forall_mem_singleton.mpr trivial⟩
  case time =>
    split
    · exact List.forall_mem_singleton.mpr trivial
    · exact List.forall_mem_nil _
  case node =>
    split
    · simp only [List.forall_mem_cons]
      exact ⟨trivial, trivial, trivial, List.forall_mem_nil _⟩
    · exact List.forall_mem_nil _
  case owner =>
    split
    · simp only [List.forall_mem_cons]
      exact ⟨trivial, trivial, List.forall_mem_nil _⟩
    · exact List.forall_mem_nil _

theorem forms_parseIdentifier (name : String) (argument : Value) :
    Forms (parseIdentifier name argument) := by
  refine (Argument.yields_string name argument).bind fun text _ => ?_
  split
  · exact wellFormed_describe _
  · trivial

end Encodings

end Builtin

namespace Registry

open Builtin

/-- The builtins whose declared results are not flat. -/
def structured : List Builtin := [
  binary Declared.minus Arithmetic.minus,
  unary Declared.max Ordering.max,
  unary Declared.min Ordering.min,
  unary Declared.sort Ordering.sort,
  binary Declared.arrayConcat Collections.concat,
  unary Declared.arrayReverse Collections.reverse,
  ternary Declared.arraySlice Collections.slice,
  ternary Declared.objectGet Collections.get,
  unary Declared.objectKeys Collections.keys,
  binary Declared.objectUnion Collections.objectUnion,
  unary Declared.objectUnionN Collections.objectUnionAll,
  binary Declared.and fun _ => Collections.intersection,
  binary Declared.or fun _ => Collections.union,
  unary Declared.intersection (Collections.combineAll Members.intersectionAll),
  unary Declared.union (Collections.combineAll Members.unionAll),
  unary Declared.uuidParse Encodings.parseIdentifier]

theorem structured_builtins :
    builtins.filter (fun builtin => !builtin.metadata.givesFlat) = structured := rfl

theorem forming_of_mem_structured : ∀ builtin ∈ structured, builtin.Forming := by
  simp only [structured, List.forall_mem_cons]
  exact ⟨forming_binary rfl fun _ _ formed _ => Arithmetic.forms_minus _ formed,
    forming_unary rfl fun _ formed => Ordering.forms_max _ formed,
    forming_unary rfl fun _ formed => Ordering.forms_min _ formed,
    forming_unary rfl fun _ formed => Ordering.forms_sort _ formed,
    forming_binary rfl fun _ _ formed formed' => Collections.forms_concat _ formed formed',
    forming_unary rfl fun _ formed => Collections.forms_reverse _ formed,
    forming_ternary rfl fun _ _ _ formed _ _ => Collections.forms_slice _ formed _ _,
    forming_ternary rfl fun _ _ _ formed _ formed' => Collections.forms_get _ formed _ formed',
    forming_unary rfl fun _ formed => Collections.forms_keys _ formed,
    forming_binary rfl fun _ _ formed formed' => Collections.forms_objectUnion _ formed formed',
    forming_unary rfl fun _ formed => Collections.forms_objectUnionAll _ formed,
    forming_binary rfl fun _ _ formed formed' =>
      Collections.forms_combine _ Members.wellFormed_intersection formed formed',
    forming_binary rfl fun _ _ formed formed' =>
      Collections.forms_combine _ Members.wellFormed_union formed formed',
    forming_unary rfl fun _ formed =>
      Collections.forms_combineAll _ Members.wellFormed_intersectionAll formed,
    forming_unary rfl fun _ formed =>
      Collections.forms_combineAll _ Members.wellFormed_unionAll formed,
    forming_unary rfl fun _ _ => Encodings.forms_parseIdentifier _ _,
    fun _ member => absurd member List.not_mem_nil⟩

/-- **Every builtin of this library makes well-formed values of well-formed arguments.** -/
theorem standard_forming {name : String} {builtin : Builtin}
    (found : standard.find? name = some builtin) : builtin.Forming := by
  have member := (mem_of_standard_find? found).1
  cases flat : builtin.metadata.givesFlat with
  | true => exact (standard_sound name builtin found).forming flat
  | false =>
      refine forming_of_mem_structured builtin ?_
      rw [← structured_builtins]
      exact List.mem_filter.mpr ⟨member, by rw [flat]; rfl⟩

end Registry

end Rego
