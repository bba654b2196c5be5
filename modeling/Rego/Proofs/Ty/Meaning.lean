import Mathlib.Data.List.Forall2
import Rego.Proofs.Value.Fields
import Rego.Ty.Matching

/-!
# What types admit

Whether a type admits a value is computed part by part. Each part has a meaning of its own: leading
types are met by the items at their positions, further types by all items after these
(`admits_array_iff`); properties are met by the field with an equal key, further types by the fields
whose key no property has (`admits_object_iff`).

Everything that a type says of the parts of a value it says positively. So a type that admits more
in place of an element, a member or a field, at whatever depth, and a further alternative beside
others, make a type that admits more (`within_of_widens`). An empty union is no exception to this
but no starting point either: it admits everything, and gets narrower by its first alternative.
-/

namespace Rego.Ty

set_option autoImplicit false

open Value

variable {leading types others : List Ty} {further : Option Ty} {items : List Value}
  {properties : List (Value × Ty)} {furtherPair : Option (Ty × Ty)} {fields : List (Value × Value)}
  {value : Value}

/-! ## Arrays -/

theorem admitsLeading_iff : admitsLeading types items = true ↔
    types.length ≤ items.length ∧ ∀ (position : Nat) (type : Ty) (item : Value),
      types[position]? = some type → items[position]? = some item → type.admits item = true := by
  induction types generalizing items with
  | nil => simp [admitsLeading]
  | cons first rest ih =>
      cases items with
      | nil => simp [admitsLeading]
      | cons item items =>
          rw [admitsLeading, Bool.and_eq_true, ih, List.length_cons, List.length_cons,
            Nat.add_le_add_iff_right]
          constructor
          · rintro ⟨here, enough, later⟩
            refine ⟨enough, fun position type item' typed found => ?_⟩
            cases position with
            | zero =>
                cases typed
                cases found
                exact here
            | succ position => exact later position type item' typed found
          · rintro ⟨enough, each⟩
            exact ⟨each 0 first item rfl rfl, enough,
              fun position type item' typed found => each (position + 1) type item' typed found⟩

theorem admitsFurther_iff : admitsFurther further items = true ↔
    ∀ item ∈ items, ∃ type, further = some type ∧ type.admits item = true := by
  cases further with
  | none => simp [admitsFurther, List.eq_nil_iff_forall_not_mem]
  | some type => simp [admitsFurther]

/-- **Arrays.** There is an item for each leading type, which admits it, and all items after these
are admitted by a further type, without which there are none. -/
theorem admits_array_iff : (Ty.array leading further).admits (.array items) = true ↔
    leading.length ≤ items.length ∧
    (∀ (position : Nat) (type : Ty) (item : Value), leading[position]? = some type →
      items[position]? = some item → type.admits item = true) ∧
    ∀ (position : Nat) (item : Value), leading.length ≤ position →
      items[position]? = some item → ∃ type, further = some type ∧ type.admits item = true := by
  have rest : (∀ item ∈ items.drop leading.length, ∃ type, further = some type ∧
        type.admits item = true) ↔
      ∀ (position : Nat) (item : Value), leading.length ≤ position →
        items[position]? = some item → ∃ type, further = some type ∧ type.admits item = true := by
    constructor
    · intro each position item beyond found
      refine each item (List.mem_iff_getElem?.mpr ⟨position - leading.length, ?_⟩)
      rw [List.getElem?_drop, Nat.add_sub_cancel' beyond, found]
    · intro each item member
      obtain ⟨offset, found⟩ := List.mem_iff_getElem?.mp member
      rw [List.getElem?_drop] at found
      exact each _ item (Nat.le_add_right _ _) found
  rw [admits, Bool.and_eq_true, admitsLeading_iff, admitsFurther_iff, rest, and_assoc]

/-! ## Objects -/

theorem admitsProperties_iff : admitsProperties properties fields = true ↔
    ∀ property ∈ properties, ∃ value, Fields.get? property.1 fields = some value ∧
      property.2.admits value = true := by
  induction properties with
  | nil => simp [admitsProperties]
  | cons property rest ih =>
      rw [admitsProperties, Bool.and_eq_true, ih, List.forall_mem_cons]
      refine and_congr_left' ?_
      cases Fields.get? property.1 fields <;> simp

theorem admitsFurtherFields_iff : admitsFurtherFields furtherPair fields = true ↔
    ∀ field ∈ fields, ∃ key value, furtherPair = some (key, value) ∧
      key.admits field.1 = true ∧ value.admits field.2 = true := by
  cases furtherPair with
  | none => simp [admitsFurtherFields, List.eq_nil_iff_forall_not_mem]
  | some pair =>
      obtain ⟨key, value⟩ := pair
      simp [admitsFurtherFields]

theorem mem_furtherFields_iff {field : Value × Value} : field ∈ furtherFields properties fields ↔
    field ∈ fields ∧ ∀ property ∈ properties, property.1.equals field.1 = false := by
  simp [furtherFields, List.mem_filter]

/-- Where keys ascend, every property is met exactly if for each there is a field with an equal key
whose value all properties of this key admit. -/
theorem admitsProperties_iff_of_ascending (ascending : Fields.Ascending fields) :
    admitsProperties properties fields = true ↔
      ∀ property ∈ properties, ∃ field ∈ fields, property.1.equals field.1 = true ∧
        ∀ other ∈ properties, other.1.equals field.1 = true → other.2.admits field.2 = true := by
  rw [admitsProperties_iff]
  constructor
  · intro each property listed
    obtain ⟨value, found, _⟩ := each property listed
    obtain ⟨stored, member, same⟩ := Fields.exists_mem_of_get? found
    refine ⟨(stored, value), member, equals_iff.mpr same, fun other listed' same' => ?_⟩
    -- A property with an equal key looks up the same field.
    obtain ⟨value', found', admitted⟩ := each other listed'
    rw [Fields.get?_congr (equals_iff.mp same'), Fields.get?_of_mem ascending member] at found'
    cases found'
    exact admitted
  · intro each property listed
    obtain ⟨field, member, same, admitted⟩ := each property listed
    refine ⟨field.2, ?_, admitted property listed same⟩
    rw [Fields.get?_congr (equals_iff.mp same), Fields.get?_of_mem ascending member]

/-- **Objects.** The key of each property is there, with a value that all properties of this key
admit, and each field whose key no property has is admitted by further types, without which there
are none. -/
theorem admits_object_iff (ascending : Fields.Ascending fields) :
    (Ty.object properties furtherPair).admits (.object fields) = true ↔
      (∀ property ∈ properties, ∃ field ∈ fields, property.1.equals field.1 = true ∧
        ∀ other ∈ properties, other.1.equals field.1 = true → other.2.admits field.2 = true) ∧
      ∀ field ∈ fields, (∀ property ∈ properties, property.1.equals field.1 = false) →
        ∃ key value, furtherPair = some (key, value) ∧ key.admits field.1 = true ∧
          value.admits field.2 = true := by
  rw [admits, Bool.and_eq_true, admitsProperties_iff_of_ascending ascending,
    admitsFurtherFields_iff]
  simp only [mem_furtherFields_iff, and_imp]

/-! ## Unions, sets and functions -/

theorem admitsAny_iff :
    admitsAny types value = true ↔ ∃ type ∈ types, type.admits value = true := by
  induction types with
  | nil => simp [admitsAny]
  | cons type rest ih => simp [admitsAny, ih]

/-- A union admits what one of its alternatives admits, and without alternatives everything. -/
theorem admits_any_iff : (Ty.any types).admits value = true ↔
    types = [] ∨ ∃ type ∈ types, type.admits value = true := by
  rw [admits, Bool.or_eq_true, List.isEmpty_iff, admitsAny_iff]

/-- The signature of a builtin admits nothing, whatever it is named. -/
theorem admits_of_signature? : ∀ {type : Ty} {signature : Signature},
    type.signature? = some signature → ∀ value : Value, type.admits value = false
  | .named _ _ inner, _, signed, value => by
      rw [admits]
      exact @admits_of_signature? inner _ signed value
  | .function _ _ _, _, _, value => by cases value <;> rfl

/-! ## Types that admit more -/

/-- Every value that one type admits is admitted by another. -/
def Within (narrow wide : Ty) : Prop :=
  ∀ value : Value, narrow.admits value = true → wide.admits value = true

theorem Within.refl (type : Ty) : Within type type := fun _ admitted => admitted

theorem Within.trans {first second third : Ty} (one : Within first second)
    (two : Within second third) : Within first third :=
  fun value admitted => two value (one value admitted)

variable {narrow wide : Ty}

/-- A list in which one member is replaced by a related one is related member by member. -/
theorem forall₂_replaced {α : Type} {related : α → α → Prop}
    (refl : ∀ member, related member member) {left right : α} (step : related left right)
    (before after : List α) :
    List.Forall₂ related (before ++ left :: after) (before ++ right :: after) := by
  induction before with
  | nil => exact .cons step (List.forall₂_same.mpr fun member _ => refl member)
  | cons member before ih => exact .cons (refl member) ih

theorem admitsLeading_mono (each : List.Forall₂ Within types others)
    (admitted : admitsLeading types items = true) : admitsLeading others items = true := by
  induction each generalizing items with
  | nil => exact admitted
  | cons first _ ih =>
      cases items with
      | nil => cases admitted
      | cons item items =>
          rw [admitsLeading, Bool.and_eq_true] at admitted ⊢
          exact ⟨first item admitted.1, ih admitted.2⟩

/-- Wider leading types and a wider further type make a wider array type. -/
theorem Within.array {wider : Option Ty} (each : List.Forall₂ Within types others)
    (beyond : ∀ type, further = some type → ∃ other, wider = some other ∧ Within type other) :
    Within (.array types further) (.array others wider) := by
  intro value admitted
  cases value with
  | array items =>
      rw [admits, Bool.and_eq_true, admitsFurther_iff] at admitted ⊢
      obtain ⟨first, rest⟩ := admitted
      refine ⟨admitsLeading_mono each first, fun item member => ?_⟩
      rw [← each.length_eq] at member
      obtain ⟨type, some, admitted⟩ := rest item member
      obtain ⟨other, some', within⟩ := beyond type some
      exact ⟨other, some', within item admitted⟩
  | _ => cases admitted

/-- A wider type of members makes a wider set type. -/
theorem Within.set (within : Within narrow wide) :
    Within (.set (some narrow)) (.set (some wide)) := by
  intro value admitted
  cases value with
  | set members =>
      rw [admits, List.all_eq_true] at admitted ⊢
      exact fun member present => within member (admitted member present)
  | _ => cases admitted

/-- Properties of one key of which the second admits more. -/
def PropertyWithin (left right : Value × Ty) : Prop := left.1 = right.1 ∧ Within left.2 right.2

theorem PropertyWithin.refl (property : Value × Ty) : PropertyWithin property property :=
  ⟨rfl, .refl property.2⟩

/-- Which fields are further ones depends on the keys of properties only. -/
theorem furtherFields_congr {wider : List (Value × Ty)}
    (each : List.Forall₂ PropertyWithin properties wider) (fields : List (Value × Value)) :
    furtherFields properties fields = furtherFields wider fields := by
  have listed (key : Value) : (properties.any fun property => property.1.equals key) =
      wider.any fun property => property.1.equals key := by
    induction each with
    | nil => rfl
    | cons first _ ih => rw [List.any_cons, List.any_cons, ih, first.1]
  unfold furtherFields
  simp only [listed]

theorem admitsProperties_mono {wider : List (Value × Ty)}
    (each : List.Forall₂ PropertyWithin properties wider)
    (admitted : admitsProperties properties fields = true) :
    admitsProperties wider fields = true := by
  rw [admitsProperties_iff] at admitted ⊢
  induction each with
  | nil => exact nofun
  | cons first _ ih =>
      obtain ⟨here, later⟩ := List.forall_mem_cons.mp admitted
      obtain ⟨value, found, admitted⟩ := here
      exact List.forall_mem_cons.mpr
        ⟨⟨value, first.1 ▸ found, first.2 value admitted⟩, ih later⟩

/-- Wider types of properties and of further keys and values make a wider object type. -/
theorem Within.object {wider : List (Value × Ty)} {widerPair : Option (Ty × Ty)}
    (each : List.Forall₂ PropertyWithin properties wider)
    (beyond : ∀ key value, furtherPair = some (key, value) → ∃ otherKey otherValue,
      widerPair = some (otherKey, otherValue) ∧ Within key otherKey ∧ Within value otherValue) :
    Within (.object properties furtherPair) (.object wider widerPair) := by
  intro value admitted
  cases value with
  | object fields =>
      rw [admits, Bool.and_eq_true, admitsFurtherFields_iff] at admitted ⊢
      obtain ⟨first, rest⟩ := admitted
      refine ⟨admitsProperties_mono each first, fun field member => ?_⟩
      rw [← furtherFields_congr each] at member
      obtain ⟨key, value, some, admitted, admitted'⟩ := rest field member
      obtain ⟨otherKey, otherValue, some', within, within'⟩ := beyond key value some
      exact ⟨otherKey, otherValue, some', within field.1 admitted, within' field.2 admitted'⟩
  | _ => cases admitted

/-- A union of some alternatives lies within a union that has a wider one for each. -/
theorem Within.any (some : types ≠ [])
    (each : ∀ type ∈ types, ∃ other ∈ others, Within type other) :
    Within (.any types) (.any others) := by
  intro value admitted
  rw [admits_any_iff] at admitted ⊢
  obtain ⟨type, listed, admitted⟩ := admitted.resolve_left some
  obtain ⟨other, listed', within⟩ := each type listed
  exact .inr ⟨other, listed', within value admitted⟩

theorem Within.named (within : Within narrow wide) (name : String) (description : Option String) :
    Within (.named name description narrow) (.named name description wide) := by
  intro value admitted
  rw [admits] at admitted ⊢
  exact within value admitted

/-- **Widening.** A type is replaced by one that admits more, anywhere among the elements, members,
fields and alternatives of a type, or a union that has alternatives is given more of them; and this
any number of times. -/
inductive Widens : Ty → Ty → Prop where
  | more {narrow wide : Ty} (within : Within narrow wide) : Widens narrow wide
  | named {narrow wide : Ty} (name : String) (description : Option String)
      (step : Widens narrow wide) :
      Widens (.named name description narrow) (.named name description wide)
  | leading {narrow wide : Ty} (before after : List Ty) (further : Option Ty)
      (step : Widens narrow wide) :
      Widens (.array (before ++ narrow :: after) further) (.array (before ++ wide :: after) further)
  | further {narrow wide : Ty} (leading : List Ty) (step : Widens narrow wide) :
      Widens (.array leading (some narrow)) (.array leading (some wide))
  | member {narrow wide : Ty} (step : Widens narrow wide) :
      Widens (.set (some narrow)) (.set (some wide))
  | property {narrow wide : Ty} (before after : List (Value × Ty)) (key : Value)
      (further : Option (Ty × Ty)) (step : Widens narrow wide) :
      Widens (.object (before ++ (key, narrow) :: after) further)
        (.object (before ++ (key, wide) :: after) further)
  | furtherKey {narrow wide : Ty} (properties : List (Value × Ty)) (value : Ty)
      (step : Widens narrow wide) :
      Widens (.object properties (some (narrow, value))) (.object properties (some (wide, value)))
  | furtherValue {narrow wide : Ty} (properties : List (Value × Ty)) (key : Ty)
      (step : Widens narrow wide) :
      Widens (.object properties (some (key, narrow))) (.object properties (some (key, wide)))
  | alternative {narrow wide : Ty} (before after : List Ty) (step : Widens narrow wide) :
      Widens (.any (before ++ narrow :: after)) (.any (before ++ wide :: after))
  | alternatives {types others : List Ty} (some : types ≠ []) (kept : types ⊆ others) :
      Widens (.any types) (.any others)
  | trans {first second third : Ty} (one : Widens first second) (two : Widens second third) :
      Widens first third

/-- **A type that is widened admits what it admitted.** -/
theorem within_of_widens (widens : Widens narrow wide) : Within narrow wide := by
  have same (types : List Ty) : List.Forall₂ Within types types :=
    List.forall₂_same.mpr fun type _ => .refl type
  have sameProperties (properties : List (Value × Ty)) :
      List.Forall₂ PropertyWithin properties properties :=
    List.forall₂_same.mpr fun property _ => .refl property
  induction widens with
  | more within => exact within
  | named name description _ ih => exact ih.named name description
  | leading before after further _ ih =>
      exact .array (forall₂_replaced Within.refl ih before after)
        fun type some => ⟨type, some, .refl type⟩
  | @further narrow wide leading _ ih =>
      refine .array (same leading) fun type some => ⟨wide, rfl, ?_⟩
      cases some
      exact ih
  | member _ ih => exact ih.set
  | @property narrow wide before after key further _ ih =>
      have step : PropertyWithin (key, narrow) (key, wide) := ⟨rfl, ih⟩
      exact .object (forall₂_replaced PropertyWithin.refl step before after)
        fun key value some => ⟨key, value, some, .refl key, .refl value⟩
  | @furtherKey narrow wide properties value _ ih =>
      refine .object (sameProperties properties) fun key value' some => ⟨wide, value, rfl, ?_⟩
      cases some
      exact ⟨ih, .refl value⟩
  | @furtherValue narrow wide properties key _ ih =>
      refine .object (sameProperties properties) fun key' value some => ⟨key, wide, rfl, ?_⟩
      cases some
      exact ⟨.refl key, ih⟩
  | @alternative narrow wide before after _ ih =>
      refine .any (by simp) fun type listed => ?_
      rcases List.mem_append.mp listed with here | there
      · exact ⟨type, List.mem_append_left _ here, .refl type⟩
      · rcases List.mem_cons.mp there with rfl | there
        · exact ⟨wide, by simp, ih⟩
        · exact ⟨type, by simp [there], .refl type⟩
  | alternatives some kept => exact .any some fun type listed => ⟨type, kept listed, .refl type⟩
  | trans _ _ one two => exact one.trans two

/-! ## Whole types -/

/-- **Types mean what their parts say.** An array is admitted by position: an item for each leading
type, and further items only where a further type admits them all. An object is admitted by key: a
field for each property, whose value all properties of its key admit, and other fields only where
further types admit their keys and values. Hence a type that is widened, at whatever depth, admits
whatever it admitted, and a signature admits nothing. -/
theorem admits_by_parts :
    (∀ (leading : List Ty) (further : Option Ty) (items : List Value),
      (Ty.array leading further).admits (.array items) = true ↔
        leading.length ≤ items.length ∧
        (∀ (position : Nat) (type : Ty) (item : Value), leading[position]? = some type →
          items[position]? = some item → type.admits item = true) ∧
        ∀ (position : Nat) (item : Value), leading.length ≤ position →
          items[position]? = some item →
            ∃ type, further = some type ∧ type.admits item = true) ∧
    (∀ (properties : List (Value × Ty)) (further : Option (Ty × Ty))
      (fields : List (Value × Value)), Fields.Ascending fields →
        ((Ty.object properties further).admits (.object fields) = true ↔
          (∀ property ∈ properties, ∃ field ∈ fields, property.1.equals field.1 = true ∧
            ∀ other ∈ properties, other.1.equals field.1 = true →
              other.2.admits field.2 = true) ∧
          ∀ field ∈ fields, (∀ property ∈ properties, property.1.equals field.1 = false) →
            ∃ key value, further = some (key, value) ∧ key.admits field.1 = true ∧
              value.admits field.2 = true)) ∧
    (∀ narrow wide : Ty, Widens narrow wide →
      ∀ value : Value, narrow.admits value = true → wide.admits value = true) ∧
    ∀ (type : Ty) (signature : Signature), type.signature? = some signature →
      ∀ value : Value, type.admits value = false :=
  ⟨fun _ _ _ => admits_array_iff, fun _ _ _ ascending => admits_object_iff ascending,
    fun _ _ widens => within_of_widens widens, fun _ _ signed => admits_of_signature? signed⟩

/-- Properties under one key in two representations, and a further field. -/
def keyedTwice : Ty :=
  .object [(.number (.word 1), .any [.number, .null]),
      (.number (.float (Double.ofInt 1)), .any [.number, .string])]
    (some (.string, .array [.string] none))

/-- A property's value must suit both properties of its key; an item may be anything
once its type admits everything, below a name and in a larger union. -/
theorem admits_by_parts_samples :
    (keyedTwice.admits (.object [(.number (.word 1), .null)]) = false ∧
      keyedTwice.admits (.object [(.number (.word 1), .number (.word 7)),
        (.string "a", .array [.string "b"])]) = true) ∧
    (∀ value : Value,
      (Ty.any [.named "pair" none (.array [.string, .number] none)]).admits value = true →
        (Ty.any [.named "pair" none (.array [.string, .any []] none), .null]).admits value = true) ∧
    (Ty.named "sum" none (.function [.number] (some .number) none)).admits .null = false := by
  obtain ⟨_, objects, wider, functions⟩ := admits_by_parts
  refine ⟨⟨?_, ?_⟩, ?_, ?_⟩
  · rw [← Bool.not_eq_true]
    intro admitted
    obtain ⟨met, _⟩ := (objects _ _ _ (List.pairwise_singleton _ _)).mp admitted
    obtain ⟨field, member, _, admitted⟩ := met _ List.mem_cons_self
    cases List.mem_singleton.mp member
    have same : (Value.number (.float (Double.ofInt 1))).equals (.number (.word 1)) = true := by
      decide +kernel
    exact absurd (admitted _ (List.mem_cons_of_mem _ List.mem_cons_self) same) (by decide)
  · refine (objects _ _ _ (List.pairwise_pair.mpr rfl)).mpr ⟨by decide +kernel, ?_⟩
    intro field member other
    rcases List.mem_pair.mp member with rfl | rfl
    · exact absurd (other _ List.mem_cons_self) (by decide)
    · exact ⟨.string, .array [.string] none, rfl, rfl, rfl⟩
  · have inner : Widens (.array [.string, .number] none) (.array [.string, .any []] none) :=
      .leading [.string] [] none (.more fun _ _ => rfl)
    exact wider _ _ (.trans (.alternative [] [] (.named "pair" none inner))
      (.alternatives (by simp) (by simp)))
  · exact functions _ _ rfl _

end Rego.Ty
