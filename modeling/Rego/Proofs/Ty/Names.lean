import Rego.Ty.Json

/-!
# Types that are read have their names apart

A test of single types is extended to all types within a type (`Ty.everywhere`). One such test is
that no name stands directly around another one: the document of a named type is that of the type it
names, with the name put beside the other fields, so it has room for one name only. Reading takes
the name away before it looks at the rest, and what the rest makes is never named
(`Ty.namesApart_of_ofDocument`).
-/

namespace Rego

set_option autoImplicit false

namespace Ty

/-! ## Tests of all parts -/

mutual

/-- Whether a test passes for a type and for every type within it. -/
def everywhere (test : Ty → Bool) (type : Ty) : Bool :=
  match type with
  | .named name description inner =>
    test (.named name description inner) && everywhere test inner
  | .any alternatives => test (.any alternatives) && everywhereInList test alternatives
  | .array leading further =>
    test (.array leading further) &&
      (everywhereInList test leading && everywhereInOption test further)
  | .set members => test (.set members) && everywhereInOption test members
  | .object properties further =>
    test (.object properties further) &&
      (everywhereInProperties test properties && everywhereInPair test further)
  | .function arguments result variadic =>
    test (.function arguments result variadic) &&
      (everywhereInList test arguments &&
        (everywhereInOption test result && everywhereInOption test variadic))
  | .null => test .null
  | .boolean => test .boolean
  | .string => test .string
  | .number => test .number
termination_by structural type

/-- Whether a test passes everywhere in all types of a list. -/
def everywhereInList (test : Ty → Bool) : List Ty → Bool
  | [] => true
  | type :: rest => everywhere test type && everywhereInList test rest
termination_by structural types => types

/-- Whether a test passes everywhere in an optional type. -/
def everywhereInOption (test : Ty → Bool) : Option Ty → Bool
  | none => true
  | some type => everywhere test type
termination_by structural type => type

/-- Whether a test passes everywhere in the types of properties. -/
def everywhereInProperties (test : Ty → Bool) : List (Value × Ty) → Bool
  | [] => true
  | (_, type) :: rest => everywhere test type && everywhereInProperties test rest
termination_by structural properties => properties

/-- Whether a test passes everywhere in optional key and value types. -/
def everywhereInPair (test : Ty → Bool) : Option (Ty × Ty) → Bool
  | none => true
  | some (key, value) => everywhere test key && everywhere test value
termination_by structural pair => pair

end

section Both

variable (left right : Ty → Bool)

mutual

/-- Two tests pass everywhere when each of them does. -/
theorem everywhere_and : ∀ type : Ty,
    everywhere (fun part => left part && right part) type =
      (everywhere left type && everywhere right type)
  | .named _ _ inner => by
      simp [everywhere, everywhere_and inner, Bool.and_assoc, Bool.and_left_comm]
  | .any alternatives => by
      simp [everywhere, everywhereInList_and alternatives, Bool.and_assoc, Bool.and_left_comm]
  | .array leading further => by
      simp [everywhere, everywhereInList_and leading, everywhereInOption_and further,
        Bool.and_assoc, Bool.and_left_comm]
  | .set members => by
      simp [everywhere, everywhereInOption_and members, Bool.and_assoc, Bool.and_left_comm]
  | .object properties further => by
      simp [everywhere, everywhereInProperties_and properties, everywhereInPair_and further,
        Bool.and_assoc, Bool.and_left_comm]
  | .function arguments result variadic => by
      simp [everywhere, everywhereInList_and arguments, everywhereInOption_and result,
        everywhereInOption_and variadic, Bool.and_assoc, Bool.and_left_comm]
  | .null => rfl
  | .boolean => rfl
  | .string => rfl
  | .number => rfl
termination_by structural type => type

theorem everywhereInList_and : ∀ types : List Ty,
    everywhereInList (fun part => left part && right part) types =
      (everywhereInList left types && everywhereInList right types)
  | [] => rfl
  | type :: rest => by
      simp [everywhereInList, everywhere_and type, everywhereInList_and rest, Bool.and_assoc,
        Bool.and_left_comm]
termination_by structural types => types

theorem everywhereInOption_and : ∀ type : Option Ty,
    everywhereInOption (fun part => left part && right part) type =
      (everywhereInOption left type && everywhereInOption right type)
  | none => rfl
  | some type => everywhere_and type
termination_by structural type => type

theorem everywhereInProperties_and : ∀ properties : List (Value × Ty),
    everywhereInProperties (fun part => left part && right part) properties =
      (everywhereInProperties left properties && everywhereInProperties right properties)
  | [] => rfl
  | (_, type) :: rest => by
      simp [everywhereInProperties, everywhere_and type, everywhereInProperties_and rest,
        Bool.and_assoc, Bool.and_left_comm]
termination_by structural properties => properties

theorem everywhereInPair_and : ∀ pair : Option (Ty × Ty),
    everywhereInPair (fun part => left part && right part) pair =
      (everywhereInPair left pair && everywhereInPair right pair)
  | none => rfl
  | some (key, value) => by
      simp [everywhereInPair, everywhere_and key, everywhere_and value, Bool.and_assoc,
        Bool.and_left_comm]
termination_by structural pair => pair

end

end Both

/-! ## Names -/

/-- Whether a type has a name of its own. -/
def isNamed : Ty → Bool
  | .named _ _ _ => true
  | _ => false

/-- A type is not a name directly around a named type. -/
def singlyNamed : Ty → Bool
  | .named _ _ inner => !inner.isNamed
  | _ => true

/-- Nowhere in a type does a name stand directly around a named type. -/
def NamesApart (type : Ty) : Prop := type.everywhere singlyNamed = true

instance (type : Ty) : Decidable type.NamesApart := inferInstanceAs (Decidable (_ = true))

/-! ## Reading -/

/-- Whatever a computation gives has a property. -/
def Gives {α : Type} (good : α → Prop) (computation : Except TyError α) : Prop :=
  ∀ result, computation = .ok result → good result

namespace Gives

variable {α β : Type} {good : α → Prop} {computation : Except TyError α}

theorem ok {result : α} (holds : good result) : Gives good (.ok result) := by
  intro other same
  cases same
  exact holds

theorem error (failure : TyError) : Gives good (.error failure) := nofun

theorem anything : Gives (fun _ => True) computation := fun _ _ => trivial

theorem bind {better : β → Prop} {next : α → Except TyError β} (first : Gives good computation)
    (following : ∀ result, good result → Gives better (next result)) :
    Gives better (computation >>= next) := by
  intro result same
  cases read : computation with
  | error failure => rw [read] at same; cases same
  | ok between =>
      rw [read] at same
      exact following between (first between read) result same

end Gives

/-- The properties of a field that must hold a list; an absent field holds the empty one. -/
def Reading.listed (reading : Option Reading) : Except TyError (List (Value × Ty)) :=
  match reading with
  | some reading => reading.properties ()
  | none => .ok []

/-- The key and value types of a field, if it is there. -/
def Reading.paired (reading : Option Reading) : Except TyError (Option (Ty × Ty)) :=
  match reading with
  | some reading => (reading.pair ()).map some
  | none => .ok none

/-- The text of a field, if it is there and not null. -/
def Reading.described (reading : Option Reading) : Except TyError (Option String) :=
  match reading.map Reading.document with
  | some (.string text) => .ok (some text)
  | some .null => .ok none
  | none => .ok none
  | some _ => .error .descriptionNotText

theorem ofMarker_object (fields : List (String × Reading)) :
    ofMarker "object" fields = do
      let properties ← Reading.listed (Reading.get? "static" fields)
      let further ← Reading.paired (Reading.get? "dynamic" fields)
      return .object properties further := by
  unfold ofMarker
  cases Reading.get? "static" fields <;> cases Reading.get? "dynamic" fields <;> rfl

theorem ofReadings_of_string {fields : List (String × Reading)} {name : String}
    (found : (Reading.get? "name" fields).map Reading.document = some (.string name)) :
    ofReadings fields = do
      let description ← Reading.described (Reading.get? "description" fields)
      let inner ← ofUnnamed fields
      return .named name description inner := by
  unfold ofReadings Reading.described
  rw [found]
  cases (Reading.get? "description" fields).map Reading.document with
  | none => rfl
  | some document => cases document <;> rfl

/-- Every way of reading a field gives types with their names apart. -/
structure Reading.Apart (reading : Reading) : Prop where
  type : Gives NamesApart (reading.type ())
  types : Gives (fun types => everywhereInList singlyNamed types = true) (reading.types ())
  pair : Gives (fun pair => everywhereInPair singlyNamed (some pair) = true) (reading.pair ())
  properties : Gives (fun properties => everywhereInProperties singlyNamed properties = true)
    (reading.properties ())

namespace Reading

variable {reading? : Option Reading} (apart : ∀ reading, reading? = some reading → reading.Apart)

include apart

theorem gives_optional :
    Gives (fun type => everywhereInOption singlyNamed type = true) (optional reading?) := by
  unfold optional
  split
  · exact .ok rfl
  · next reading =>
      split
      · exact .ok rfl
      · exact (apart reading rfl).type.bind fun type holds => .ok holds

theorem gives_list :
    Gives (fun types => everywhereInList singlyNamed types = true) (list reading?) := by
  unfold list
  split
  · exact .ok rfl
  · next reading =>
      split
      · exact .ok rfl
      · exact (apart reading rfl).types

theorem gives_listed :
    Gives (fun properties => everywhereInProperties singlyNamed properties = true)
      (listed reading?) := by
  unfold listed
  split
  · next reading => exact (apart reading rfl).properties
  · exact .ok rfl

theorem gives_paired :
    Gives (fun pair => everywhereInPair singlyNamed pair = true) (paired reading?) := by
  unfold paired
  split
  · next reading => exact (apart reading rfl).pair.bind fun pair holds => .ok holds
  · exact .ok rfl

end Reading

section Fields

variable {fields : List (String × Reading)}
  (apart : ∀ key reading, Reading.get? key fields = some reading → reading.Apart)

include apart

/-- What a marker makes of other fields has no name, and names within it are apart. -/
theorem gives_ofMarker (marker : String) :
    Gives (fun type => type.isNamed = false ∧ type.NamesApart) (ofMarker marker fields) := by
  by_cases object : marker = "object"
  · rw [object, ofMarker_object]
    refine (Reading.gives_listed (apart "static")).bind fun properties first => ?_
    refine (Reading.gives_paired (apart "dynamic")).bind fun further second => .ok ⟨rfl, ?_⟩
    simp [NamesApart, everywhere, singlyNamed, first, second]
  · unfold ofMarker
    split
    · exact .ok ⟨rfl, rfl⟩
    · exact .ok ⟨rfl, rfl⟩
    · exact .ok ⟨rfl, rfl⟩
    · exact .ok ⟨rfl, rfl⟩
    · refine (Reading.gives_list (apart "of")).bind fun alternatives holds => .ok ⟨rfl, ?_⟩
      simp [NamesApart, everywhere, singlyNamed, holds]
    · refine (Reading.gives_list (apart "static")).bind fun leading first => ?_
      refine (Reading.gives_optional (apart "dynamic")).bind fun further second => .ok ⟨rfl, ?_⟩
      simp [NamesApart, everywhere, singlyNamed, first, second]
    · refine (Reading.gives_optional (apart "of")).bind fun members holds => .ok ⟨rfl, ?_⟩
      simp [NamesApart, everywhere, singlyNamed, holds]
    · exact absurd rfl object
    · refine (Reading.gives_list (apart "args")).bind fun arguments first => ?_
      refine (Reading.gives_optional (apart "result")).bind fun result second => ?_
      refine (Reading.gives_optional (apart "variadic")).bind fun variadic third => .ok ⟨rfl, ?_⟩
      simp [NamesApart, everywhere, singlyNamed, first, second, third]
    · exact .error _

theorem gives_ofUnnamed :
    Gives (fun type => type.isNamed = false ∧ type.NamesApart) (ofUnnamed fields) := by
  unfold ofUnnamed
  split
  · exact gives_ofMarker apart _
  · exact .error _
  · exact .error _

/-- A name is put around a type that has none. -/
theorem gives_ofReadings : Gives NamesApart (ofReadings fields) := by
  by_cases string : ∃ name, (Reading.get? "name" fields).map Reading.document = some (.string name)
  · obtain ⟨name, found⟩ := string
    rw [ofReadings_of_string found]
    refine Gives.anything.bind fun description _ => ?_
    refine (gives_ofUnnamed apart).bind fun inner holds => .ok ?_
    obtain ⟨unnamed, within⟩ := holds
    have within : everywhere singlyNamed inner = true := within
    simp [NamesApart, everywhere, singlyNamed, unnamed, within]
  · unfold ofReadings
    split
    · intro type read
      exact (gives_ofUnnamed apart type read).2
    · next name found => exact absurd ⟨name, found⟩ string
    · exact .error _

end Fields

mutual

/-- **Every type that is read has its names apart.** -/
theorem namesApart_of_ofDocument : ∀ document : Document, Gives NamesApart (ofDocument document)
  | .object fields => gives_ofReadings (apart_readings fields)
  | .null => nofun
  | .bool _ => nofun
  | .number _ => nofun
  | .string _ => nofun
  | .array _ => nofun
termination_by structural document => document

theorem apart_readings : ∀ (fields : List (String × Document)) (key : String) (reading : Reading),
    Reading.get? key (readings fields) = some reading → reading.Apart
  | [], _, _, found => by cases found
  | (name, document) :: rest, key, reading, found => by
      unfold readings Reading.get? at found
      split at found
      · cases found
        exact {
          type := namesApart_of_ofDocument document
          types := gives_ofArray document
          pair := gives_ofPair document
          properties := gives_ofProperties document }
      · exact apart_readings rest key reading found
termination_by structural fields => fields

theorem gives_ofArray : ∀ document : Document,
    Gives (fun types => everywhereInList singlyNamed types = true) (ofArray document)
  | .array items => gives_ofItems items
  | .null => nofun
  | .bool _ => nofun
  | .number _ => nofun
  | .string _ => nofun
  | .object _ => nofun
termination_by structural document => document

theorem gives_ofItems : ∀ items : List Document,
    Gives (fun types => everywhereInList singlyNamed types = true) (ofItems items)
  | [] => .ok rfl
  | item :: rest => by
      unfold ofItems
      refine (namesApart_of_ofDocument item).bind fun type first => ?_
      refine (gives_ofItems rest).bind fun types later => ?_
      exact .ok (Bool.and_eq_true_iff.mpr ⟨first, later⟩)
termination_by structural items => items

theorem gives_ofPair : ∀ document : Document,
    Gives (fun pair => everywhereInPair singlyNamed (some pair) = true) (ofPair document)
  | .object fields => by
      have apart := apart_readings fields
      unfold ofPair
      simp only
      split
      · next key value keyFound valueFound =>
          refine (apart "key" key keyFound).type.bind fun key first => ?_
          refine (apart "value" value valueFound).type.bind fun value second => ?_
          exact .ok (Bool.and_eq_true_iff.mpr ⟨first, second⟩)
      · exact .error _
  | .null => nofun
  | .bool _ => nofun
  | .number _ => nofun
  | .string _ => nofun
  | .array _ => nofun
termination_by structural document => document

theorem gives_ofProperties : ∀ document : Document,
    Gives (fun properties => everywhereInProperties singlyNamed properties = true)
      (ofProperties document)
  | .array items => gives_ofPropertyItems items
  | .null => nofun
  | .bool _ => nofun
  | .number _ => nofun
  | .string _ => nofun
  | .object _ => nofun
termination_by structural document => document

theorem gives_ofPropertyItems : ∀ items : List Document,
    Gives (fun properties => everywhereInProperties singlyNamed properties = true)
      (ofPropertyItems items)
  | [] => .ok rfl
  | item :: rest => by
      unfold ofPropertyItems
      refine (gives_ofProperty item).bind fun property first => ?_
      refine (gives_ofPropertyItems rest).bind fun properties later => ?_
      exact .ok (Bool.and_eq_true_iff.mpr ⟨first, later⟩)
termination_by structural items => items

theorem gives_ofProperty : ∀ document : Document,
    Gives (fun property => NamesApart property.2) (ofProperty document)
  | .object fields => by
      have apart := apart_readings fields
      unfold ofProperty
      simp only
      split
      · next key value keyFound valueFound =>
          refine Gives.anything.bind fun key _ => ?_
          exact (apart "value" value valueFound).type.bind fun type holds => .ok holds
      · exact .error _
  | .null => nofun
  | .bool _ => nofun
  | .number _ => nofun
  | .string _ => nofun
  | .array _ => nofun
termination_by structural document => document

end

end Ty

end Rego
