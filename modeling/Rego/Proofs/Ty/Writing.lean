import Rego.Proofs.Json.Ordered
import Rego.Proofs.Ty.RoundTrip

/-!
# The text of a type is read as its document

The fields of a written type are set one by one, under keys that are fixed words, and their values
are written types, lists of them, texts, or property keys. So with plain property keys the document
of a type is regular (`regular_toDocument`): whoever reads its text as an ordered document finds the
document that was written.
-/

namespace Rego

set_option autoImplicit false

open Document

/-- The document of a plain property key is regular. -/
theorem Value.gives_toKeyDocument {key : Value} (plain : key.isPlainKey = true) :
    Ty.Gives Regular key.toKeyDocument := by
  cases key with
  | null => exact .ok regular_null
  | bool value => exact .ok (regular_bool value)
  | string text => exact .ok (regular_string text)
  | number value =>
      cases value with
      | word value =>
          have regular := regular_numeral (Numeral.ofInt value.toInt)
          rw [Numeral.text_ofInt] at regular
          exact .ok regular
      | _ => cases plain
  | _ => cases plain

namespace Ty

/-- A field that may be absent is regular if it is there. -/
def RegularField (document : Option Document) : Prop :=
  ∀ present, document = some present → Regular present

theorem regularField_none : RegularField none := nofun

theorem regularField_some {document : Document} (regular : Regular document) :
    RegularField (some document) := by
  intro present same
  cases same
  exact regular

theorem regularFields_putIfSome {key : String} {document : Option Document}
    {fields : List (String × Document)} (fields_regular : RegularFields fields)
    (undisguised : key ≠ numberKey) (regular : RegularField document) :
    RegularFields (putIfSome key document fields) := by
  cases document with
  | none => exact fields_regular
  | some document => exact fields_regular.put undisguised (regular document rfl)

/-- The field that holds the marker alone. -/
theorem regularFields_marker (marker : String) : RegularFields [("type", .string marker)] :=
  regularFields_singleton (by decide) (regular_string marker)

/-- The two fields of a property, or of further keys and values. -/
theorem regular_pair {key value : Document} (first : Regular key) (second : Regular value) :
    Regular (.object [("key", key), ("value", value)]) := by
  have ascending : compare "key" "value" = .lt := by decide
  have key_undisguised : "key" ≠ numberKey := by decide
  have value_undisguised : "value" ≠ numberKey := by decide
  refine RegularFields.regular ⟨List.pairwise_pair.mpr ascending, ?_, ?_⟩
  · exact List.forall_mem_cons.mpr
      ⟨key_undisguised, List.forall_mem_singleton.mpr value_undisguised⟩
  · exact List.forall_mem_cons.mpr ⟨first, List.forall_mem_singleton.mpr second⟩

mutual

/-- **What is written of a type with plain keys is regular.** -/
theorem gives_toFields : ∀ {type : Ty}, everywhere plainlyKeyed type = true →
    Gives RegularFields (toFields type)
  | .null, _ => .ok (regularFields_marker _)
  | .boolean, _ => .ok (regularFields_marker _)
  | .string, _ => .ok (regularFields_marker _)
  | .number, _ => .ok (regularFields_marker _)
  | .named name description inner, plain => by
      obtain ⟨_, within⟩ := Bool.and_eq_true_iff.mp plain
      rw [toFields]
      refine (gives_toFields within).bind fun fields regular => .ok ?_
      refine regularFields_putIfSome (regular.put (by decide) (regular_string name)) (by decide) ?_
      cases description with
      | none => exact regularField_none
      | some text => exact regularField_some (regular_string text)
  | .any alternatives, plain => by
      obtain ⟨_, within⟩ := Bool.and_eq_true_iff.mp plain
      rw [toFields]
      refine (gives_toList within).bind fun list regular => .ok ?_
      exact regularFields_putIfSome (regularFields_marker _) (by decide) regular
  | .array leading further, plain => by
      obtain ⟨_, within⟩ := Bool.and_eq_true_iff.mp plain
      obtain ⟨first, second⟩ := Bool.and_eq_true_iff.mp within
      rw [toFields]
      refine (gives_toList first).bind fun list regular => ?_
      refine (gives_toOption second).bind fun option regular' => .ok ?_
      exact regularFields_putIfSome (regularFields_putIfSome (regularFields_marker _) (by decide)
        regular') (by decide) regular
  | .set members, plain => by
      obtain ⟨_, within⟩ := Bool.and_eq_true_iff.mp plain
      rw [toFields]
      refine (gives_toOption within).bind fun option regular => .ok ?_
      exact regularFields_putIfSome (regularFields_marker _) (by decide) regular
  | .object properties further, plain => by
      obtain ⟨here, within⟩ := Bool.and_eq_true_iff.mp plain
      obtain ⟨first, second⟩ := Bool.and_eq_true_iff.mp within
      rw [toFields]
      refine (gives_toProperties here first).bind fun items regular => ?_
      refine (gives_toPair second).bind fun pair regular' => .ok ?_
      refine regularFields_putIfSome (regularFields_putIfSome (regularFields_marker _) (by decide)
        regular') (by decide) ?_
      split
      · exact regularField_none
      · exact regularField_some (regular_array regular)
  | .function arguments result variadic, plain => by
      obtain ⟨_, within⟩ := Bool.and_eq_true_iff.mp plain
      obtain ⟨first, rest⟩ := Bool.and_eq_true_iff.mp within
      obtain ⟨second, third⟩ := Bool.and_eq_true_iff.mp rest
      rw [toFields]
      refine (gives_toList first).bind fun list regular => ?_
      refine (gives_toOption second).bind fun option regular' => ?_
      refine (gives_toOption third).bind fun option' regular'' => .ok ?_
      exact regularFields_putIfSome (regularFields_putIfSome (regularFields_putIfSome
        (regularFields_marker _) (by decide) regular'') (by decide) regular') (by decide) regular

theorem gives_toItems : ∀ {types : List Ty}, everywhereInList plainlyKeyed types = true →
    Gives (fun items => ∀ item ∈ items, Regular item) (toItems types)
  | [], _ => .ok nofun
  | type :: rest, plain => by
      obtain ⟨here, later⟩ := Bool.and_eq_true_iff.mp plain
      rw [toItems]
      refine (gives_toFields here).bind fun fields regular => ?_
      refine (gives_toItems later).bind fun items regular' => .ok ?_
      exact List.forall_mem_cons.mpr ⟨regular.regular, regular'⟩

theorem gives_toList : ∀ {types : List Ty}, everywhereInList plainlyKeyed types = true →
    Gives RegularField (toList types)
  | [], _ => .ok regularField_none
  | type :: rest, plain => by
      obtain ⟨here, later⟩ := Bool.and_eq_true_iff.mp plain
      rw [toList]
      refine (gives_toFields here).bind fun fields regular => ?_
      refine (gives_toItems later).bind fun items regular' => .ok ?_
      exact regularField_some (regular_array (List.forall_mem_cons.mpr ⟨regular.regular, regular'⟩))

theorem gives_toOption : ∀ {type : Option Ty}, everywhereInOption plainlyKeyed type = true →
    Gives RegularField (toOption type)
  | none, _ => .ok regularField_none
  | some type, plain => by
      rw [toOption]
      refine (gives_toFields plain).bind fun fields regular => .ok ?_
      exact regularField_some regular.regular

theorem gives_toProperties : ∀ {properties : List (Value × Ty)},
    (properties.all fun property => property.1.isPlainKey) = true →
    everywhereInProperties plainlyKeyed properties = true →
    Gives (fun items => ∀ item ∈ items, Regular item) (toProperties properties)
  | [], _, _ => .ok nofun
  | (key, type) :: rest, keys, plain => by
      obtain ⟨here, later⟩ := Bool.and_eq_true_iff.mp plain
      obtain ⟨key_plain, keys_plain⟩ := Bool.and_eq_true_iff.mp keys
      rw [toProperties]
      refine (Value.gives_toKeyDocument key_plain).bind fun document regular => ?_
      refine (gives_toFields here).bind fun fields regular' => ?_
      refine (gives_toProperties keys_plain later).bind fun items regular'' => .ok ?_
      exact List.forall_mem_cons.mpr ⟨regular_pair regular regular'.regular, regular''⟩

theorem gives_toPair : ∀ {pair : Option (Ty × Ty)}, everywhereInPair plainlyKeyed pair = true →
    Gives RegularField (toPair pair)
  | none, _ => .ok regularField_none
  | some (key, value), plain => by
      obtain ⟨here, there⟩ := Bool.and_eq_true_iff.mp plain
      rw [toPair]
      refine (gives_toFields here).bind fun fields regular => ?_
      refine (gives_toFields there).bind fun fields' regular' => .ok ?_
      exact regularField_some (regular_pair regular.regular regular'.regular)

end

/-- The document of a type with plain keys is regular. -/
theorem regular_toDocument {type : Ty} (plain : PlainKeys type) :
    Gives Regular type.toDocument := by
  unfold toDocument
  exact (gives_toFields plain).bind fun fields regular => .ok regular.regular

end Ty

end Rego
