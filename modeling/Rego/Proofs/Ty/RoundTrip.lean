import Rego.Proofs.Number.Text
import Rego.Proofs.Ty.Names

/-!
# Types read back

A written type has the fields of its own form and no others, except that a name and a description
join those of the type they name. So the fields of a type without a name hold neither `name` nor
`description` (`Ty.Bare`), and putting them there changes no field that the marker asks for
(`Ty.ofUnnamed_congr`). Reading then finds every part where writing has put it, absent parts being
absent fields (`Ty.exists_toFields`), and property keys come back as long as they are null, booleans,
strings or integers of a machine word (`Value.exists_toKeyDocument`).
-/

namespace Rego

set_option autoImplicit false

/-! ## Property keys -/

/-- A property key is null, a boolean, a string or an integer of a machine word. -/
def Value.isPlainKey : Value → Bool
  | .null => true
  | .bool _ => true
  | .string _ => true
  | .number (.word _) => true
  | _ => false

namespace Number

theorem isWholeLiteral_integerText (value : Int) :
    isWholeLiteral (Radix.integerText 10 value) = true := by
  have digits : NumberLiteral.allDigits (Radix.digits 10 value.natAbs) = true :=
    List.all_eq_true.mpr (Radix.isDecimalDigit_of_mem_digits _)
  unfold Radix.integerText
  by_cases negative : value < 0
  · rw [if_pos negative]
    exact digits
  · rw [if_neg negative]
    -- The first digit is no minus sign.
    unfold isWholeLiteral
    split
    · next rest split =>
        have minus := Radix.isDecimalDigit_of_mem_digits value.natAbs '-'
          (split ▸ List.mem_cons_self)
        exact absurd minus (by decide)
    · exact digits

/-- The literal of a word in a property key gives the word. -/
theorem ofKeyLiteral_word (value : Int64) :
    ofKeyLiteral (Number.word value).plainText = .ok (.word value) := by
  have text : (Number.word value).plainText =
      String.ofList (Radix.integerText 10 value.toInt) := rfl
  have literal : NumberLiteral.readTrimmed? (Radix.integerText 10 value.toInt) =
      some ⟨decide (value.toInt < 0), Radix.digits 10 value.toInt.natAbs, [], 0⟩ := by
    have spells := (Numeral.ofInt value.toInt).spells
    rw [Numeral.text_ofInt] at spells
    exact NumberLiteral.readTrimmed?_eq_some_iff.mpr spells
  have denoted : NumberLiteral.value
      ⟨decide (value.toInt < 0), Radix.digits 10 value.toInt.natAbs, [], 0⟩ = .word value :=
    (Numeral.value_ofInt value.toInt).trans (ofInt_toInt value)
  have small : -(2 ^ 127) ≤ value.toInt ∧ value.toInt < 2 ^ 128 := by
    have lower := value.le_toInt
    have upper := value.toInt_lt
    omega
  unfold ofKeyLiteral
  rw [text, String.toList_ofList, literal]
  simp only [denoted, toInt?, Option.any_some, small, and_self, decide_true,
    isWholeLiteral_integerText, if_true]

end Number

/-- **A plain key has a document that is read as the key.** -/
theorem Value.exists_toKeyDocument {key : Value} (plain : key.isPlainKey = true) :
    ∃ document, key.toKeyDocument = .ok document ∧ ofKeyDocument document = .ok key := by
  cases key with
  | null => exact ⟨.null, rfl, rfl⟩
  | bool value => exact ⟨.bool value, rfl, rfl⟩
  | string text => exact ⟨.string text, rfl, rfl⟩
  | number value =>
      cases value with
      | word value =>
          refine ⟨.number (Number.word value).plainText, rfl, ?_⟩
          unfold ofKeyDocument
          rw [Number.ofKeyLiteral_word]
      | _ => cases plain
  | _ => cases plain

/-! ## Fields of documents -/

@[simp] theorem Document.get?_put (key other : String) (document : Document)
    (fields : List (String × Document)) :
    get? other (put key document fields) =
      if other = key then some document else get? other fields := by
  induction fields with
  | nil => rfl
  | cons field rest ih =>
      obtain ⟨name, old⟩ := field
      unfold put
      split
      · rfl
      · next same =>
          have same : key = name := Std.LawfulEqCmp.eq_of_compare same
          subst same
          by_cases hit : other = key <;> simp [get?, hit]
      · next later =>
          have different : key ≠ name := by
            intro same
            rw [same, Std.ReflOrd.compare_self] at later
            cases later
          by_cases hit : other = name
          · subst hit
            simp [get?, Ne.symm different]
          · simp only [get?, if_neg hit, ih]

namespace Ty

@[simp] theorem get?_putIfSome (key other : String) (document : Option Document)
    (fields : List (String × Document)) :
    Document.get? other (putIfSome key document fields) =
      if other = key then document.or (Document.get? other fields)
      else Document.get? other fields := by
  cases document with
  | none => simp [putIfSome]
  | some document => simp [putIfSome, Document.get?_put]

/-- All ways of reading the document of a field. -/
def reading (document : Document) : Reading where
  document := document
  type := fun _ => ofDocument document
  types := fun _ => ofArray document
  pair := fun _ => ofPair document
  properties := fun _ => ofProperties document

@[simp] theorem get?_readings (key : String) (fields : List (String × Document)) :
    Reading.get? key (readings fields) = (Document.get? key fields).map reading := by
  induction fields with
  | nil => rfl
  | cons field rest ih =>
      obtain ⟨name, document⟩ := field
      unfold readings Reading.get? Document.get?
      split
      · rfl
      · exact ih

/-! ## Bare types -/

/-- What the marker asks for does not include the name or the description. -/
theorem ofUnnamed_congr {left right : List (String × Reading)}
    (same : ∀ key, key ≠ "name" → key ≠ "description" →
      Reading.get? key left = Reading.get? key right) : ofUnnamed left = ofUnnamed right := by
  have marked (marker : String) : ofMarker marker left = ofMarker marker right := by
    unfold ofMarker
    rw [same "of" (by simp) (by simp), same "static" (by simp) (by simp),
      same "dynamic" (by simp) (by simp), same "args" (by simp) (by simp),
      same "result" (by simp) (by simp), same "variadic" (by simp) (by simp)]
  unfold ofUnnamed
  rw [same "type" (by simp) (by simp)]
  simp only [marked]

/-- Fields hold a type without a name. -/
structure Bare (fields : List (String × Document)) (type : Ty) : Prop where
  noName : Document.get? "name" fields = none
  noDescription : Document.get? "description" fields = none
  reads : ofUnnamed (readings fields) = .ok type

/-- Fields hold a type: they are read as the type, and are bare unless it has a name. -/
structure Holds (fields : List (String × Document)) (type : Ty) : Prop where
  reads : ofReadings (readings fields) = .ok type
  bare : type.isNamed = false → Bare fields type

theorem Bare.holds {fields : List (String × Document)} {type : Ty} (bare : Bare fields type) :
    Holds fields type where
  reads := by
    unfold ofReadings
    rw [get?_readings, bare.noName]
    exact bare.reads
  bare := fun _ => bare

/-- A name and a description beside bare fields are read as such. -/
theorem Bare.holds_named {fields : List (String × Document)} {inner : Ty} (bare : Bare fields inner)
    (name : String) (description : Option String) :
    Holds (putIfSome "description" (description.map .string)
      (Document.put "name" (.string name) fields)) (.named name description inner) where
  reads := by
    have rest : ofUnnamed (readings (putIfSome "description" (description.map .string)
        (Document.put "name" (.string name) fields))) = .ok inner := by
      rw [← bare.reads]
      refine ofUnnamed_congr fun key first second => ?_
      rw [get?_readings, get?_readings, get?_putIfSome, if_neg second, Document.get?_put,
        if_neg first]
    have named : (Reading.get? "name" (readings (putIfSome "description" (description.map .string)
        (Document.put "name" (.string name) fields)))).map Reading.document =
          some (.string name) := by
      rw [get?_readings, get?_putIfSome, if_neg (by simp), Document.get?_put, if_pos rfl]
      rfl
    have described : Reading.described (Reading.get? "description" (readings (putIfSome
        "description" (description.map .string) (Document.put "name" (.string name) fields)))) =
          .ok description := by
      rw [get?_readings, get?_putIfSome, if_pos rfl, Document.get?_put, if_neg (by simp),
        bare.noDescription, Option.or_none]
      cases description <;> rfl
    rw [ofReadings_of_string named, described, rest]
    rfl
  bare := nofun

/-! ## Parts -/

/-- The keys of all properties that an object type lists are plain. -/
def plainlyKeyed : Ty → Bool
  | .object properties _ => properties.all fun property => property.1.isPlainKey
  | _ => true

/-- Everywhere in a type, property keys are plain. -/
def PlainKeys (type : Ty) : Prop := type.everywhere plainlyKeyed = true

instance (type : Ty) : Decidable type.PlainKeys := inferInstanceAs (Decidable (_ = true))

/-- Nothing about a type itself keeps its document from being read as the type. -/
def writable (type : Ty) : Bool := type.singlyNamed && type.plainlyKeyed

/-- Fields with a marker hold what the marker makes of them. -/
theorem holds_of_marker {fields : List (String × Document)} {type : Ty} (marker : String)
    (marked : Document.get? "name" fields = none ∧ Document.get? "description" fields = none ∧
      Document.get? "type" fields = some (.string marker))
    (reads : ofMarker marker (readings fields) = .ok type) : Holds fields type := by
  obtain ⟨noName, noDescription, marked⟩ := marked
  refine Bare.holds ⟨noName, noDescription, ?_⟩
  unfold ofUnnamed
  rw [get?_readings, marked]
  exact reads

/-- A plain key and fields that hold a type make the document of a property. -/
theorem ofProperty_of_holds {key : Value} {document : Document} {fields : List (String × Document)}
    {type : Ty} (key_read : Value.ofKeyDocument document = .ok key) (holds : Holds fields type) :
    ofProperty (.object [("key", document), ("value", .object fields)]) = .ok (key, type) := by
  simp [ofProperty, get?_readings, Document.get?, reading, ofDocument, key_read, holds.reads]
  rfl

/-- Properties are read from the field of their documents, which is absent when there are none. -/
theorem listed_of_ofPropertyItems {properties : List (Value × Ty)} {items : List Document}
    (read : ofPropertyItems items = .ok properties) :
    Reading.listed ((if properties.isEmpty then none else some (.array items)).map reading) =
      .ok properties := by
  cases properties with
  | nil => rfl
  | cons property rest => exact read

/-- Fields that hold types make the document of key and value types. -/
theorem ofPair_of_holds {keyFields valueFields : List (String × Document)} {key value : Ty}
    (key_holds : Holds keyFields key) (value_holds : Holds valueFields value) :
    ofPair (.object [("key", .object keyFields), ("value", .object valueFields)]) =
      .ok (key, value) := by
  simp [ofPair, get?_readings, Document.get?, reading, ofDocument, key_holds.reads,
    value_holds.reads]
  rfl

mutual

/-- **A type with names apart and plain keys has fields that hold it.** -/
theorem exists_toFields : ∀ {type : Ty}, everywhere writable type = true →
    ∃ fields, toFields type = .ok fields ∧ Holds fields type
  | .null, _ => ⟨_, rfl, holds_of_marker "null" ⟨rfl, rfl, rfl⟩ rfl⟩
  | .boolean, _ => ⟨_, rfl, holds_of_marker "boolean" ⟨rfl, rfl, rfl⟩ rfl⟩
  | .string, _ => ⟨_, rfl, holds_of_marker "string" ⟨rfl, rfl, rfl⟩ rfl⟩
  | .number, _ => ⟨_, rfl, holds_of_marker "number" ⟨rfl, rfl, rfl⟩ rfl⟩
  | .named name description inner, able => by
      obtain ⟨here, within⟩ := Bool.and_eq_true_iff.mp able
      obtain ⟨fields, written, holds⟩ := exists_toFields within
      have unnamed : inner.isNamed = false := by
        simpa [singlyNamed] using (Bool.and_eq_true_iff.mp here).1
      refine ⟨_, ?_, (holds.bare unnamed).holds_named name description⟩
      simp only [toFields, written]
      rfl
  | .any alternatives, able => by
      obtain ⟨_, within⟩ := Bool.and_eq_true_iff.mp able
      obtain ⟨list, written, read⟩ := exists_toList within
      refine ⟨putIfSome "of" list [("type", .string "any")], ?_,
        holds_of_marker "any" (by simp [Document.get?]) ?_⟩
      · simp only [toFields, written]
        rfl
      · simp [ofMarker, Document.get?, read]
  | .array leading further, able => by
      obtain ⟨_, within⟩ := Bool.and_eq_true_iff.mp able
      obtain ⟨first, second⟩ := Bool.and_eq_true_iff.mp within
      obtain ⟨list, listWritten, listRead⟩ := exists_toList first
      obtain ⟨option, written, read⟩ := exists_toOption second
      refine ⟨putIfSome "static" list (putIfSome "dynamic" option [("type", .string "array")]), ?_,
        holds_of_marker "array" (by simp [Document.get?]) ?_⟩
      · simp only [toFields, listWritten, written]
        rfl
      · simp [ofMarker, Document.get?, listRead, read]
        rfl
  | .set members, able => by
      obtain ⟨_, within⟩ := Bool.and_eq_true_iff.mp able
      obtain ⟨option, written, read⟩ := exists_toOption within
      refine ⟨putIfSome "of" option [("type", .string "set")], ?_,
        holds_of_marker "set" (by simp [Document.get?]) ?_⟩
      · simp only [toFields, written]
        rfl
      · simp [ofMarker, Document.get?, read]
  | .object properties further, able => by
      obtain ⟨here, within⟩ := Bool.and_eq_true_iff.mp able
      obtain ⟨first, second⟩ := Bool.and_eq_true_iff.mp within
      obtain ⟨items, itemsWritten, itemsRead⟩ :=
        exists_toProperties (Bool.and_eq_true_iff.mp here).2 first
      obtain ⟨pair, written, read⟩ := exists_toPair second
      refine ⟨putIfSome "static" (if properties.isEmpty then none else some (.array items))
        (putIfSome "dynamic" pair [("type", .string "object")]), ?_,
        holds_of_marker "object" (by simp [Document.get?]) ?_⟩
      · simp only [toFields, itemsWritten, written]
        rfl
      · have static : Reading.get? "static" (readings (putIfSome "static"
            (if properties.isEmpty then none else some (.array items))
            (putIfSome "dynamic" pair [("type", .string "object")]))) =
              (if properties.isEmpty then none else some (.array items)).map reading := by
          simp [Document.get?]
        have dynamic : Reading.get? "dynamic" (readings (putIfSome "static"
            (if properties.isEmpty then none else some (.array items))
            (putIfSome "dynamic" pair [("type", .string "object")]))) = pair.map reading := by
          simp [Document.get?]
        rw [ofMarker_object, static, dynamic, listed_of_ofPropertyItems itemsRead, read]
        rfl
  | .function arguments result variadic, able => by
      obtain ⟨_, within⟩ := Bool.and_eq_true_iff.mp able
      obtain ⟨first, rest⟩ := Bool.and_eq_true_iff.mp within
      obtain ⟨second, third⟩ := Bool.and_eq_true_iff.mp rest
      obtain ⟨list, listWritten, listRead⟩ := exists_toList first
      obtain ⟨resultField, resultWritten, resultRead⟩ := exists_toOption second
      obtain ⟨variadicField, written, read⟩ := exists_toOption third
      refine ⟨putIfSome "args" list (putIfSome "result" resultField
        (putIfSome "variadic" variadicField [("type", .string "function")])), ?_,
        holds_of_marker "function" (by simp [Document.get?]) ?_⟩
      · simp only [toFields, listWritten, resultWritten, written]
        rfl
      · simp [ofMarker, Document.get?, listRead, resultRead, read]
        rfl

theorem exists_toItems : ∀ {types : List Ty}, everywhereInList writable types = true →
    ∃ items, toItems types = .ok items ∧ ofItems items = .ok types
  | [], _ => ⟨[], rfl, rfl⟩
  | type :: rest, able => by
      obtain ⟨here, later⟩ := Bool.and_eq_true_iff.mp able
      obtain ⟨fields, written, holds⟩ := exists_toFields here
      obtain ⟨items, others, read⟩ := exists_toItems later
      refine ⟨.object fields :: items, ?_, ?_⟩
      · simp only [toItems, written, others]
        rfl
      · simp only [ofItems, ofDocument, holds.reads, read]
        rfl

theorem exists_toList : ∀ {types : List Ty}, everywhereInList writable types = true →
    ∃ list, toList types = .ok list ∧ Reading.list (list.map reading) = .ok types
  | [], _ => ⟨none, rfl, rfl⟩
  | type :: rest, able => by
      obtain ⟨here, later⟩ := Bool.and_eq_true_iff.mp able
      obtain ⟨fields, written, holds⟩ := exists_toFields here
      obtain ⟨items, others, read⟩ := exists_toItems later
      refine ⟨some (.array (.object fields :: items)), ?_, ?_⟩
      · simp only [toList, written, others]
        rfl
      · change ofItems (.object fields :: items) = _
        simp only [ofItems, ofDocument, holds.reads, read]
        rfl

theorem exists_toOption : ∀ {type : Option Ty}, everywhereInOption writable type = true →
    ∃ document, toOption type = .ok document ∧
      Reading.optional (document.map reading) = .ok type
  | none, _ => ⟨none, rfl, rfl⟩
  | some type, able => by
      obtain ⟨fields, written, holds⟩ := exists_toFields able
      refine ⟨some (.object fields), ?_, ?_⟩
      · simp only [toOption, written]
        rfl
      · change (ofReadings (readings fields)).map some = _
        rw [holds.reads]
        rfl

theorem exists_toProperties : ∀ {properties : List (Value × Ty)},
    (properties.all fun property => property.1.isPlainKey) = true →
    everywhereInProperties writable properties = true →
    ∃ items, toProperties properties = .ok items ∧ ofPropertyItems items = .ok properties
  | [], _, _ => ⟨[], rfl, rfl⟩
  | (key, type) :: rest, plain, able => by
      obtain ⟨here, later⟩ := Bool.and_eq_true_iff.mp able
      obtain ⟨plainKey, plainKeys⟩ := Bool.and_eq_true_iff.mp plain
      obtain ⟨document, keyWritten, keyRead⟩ := Value.exists_toKeyDocument plainKey
      obtain ⟨fields, written, holds⟩ := exists_toFields here
      obtain ⟨items, others, read⟩ := exists_toProperties plainKeys later
      refine ⟨.object [("key", document), ("value", .object fields)] :: items, ?_, ?_⟩
      · simp only [toProperties, keyWritten, written, others]
        rfl
      · simp only [ofPropertyItems, ofProperty_of_holds keyRead holds, read]
        rfl

theorem exists_toPair : ∀ {pair : Option (Ty × Ty)}, everywhereInPair writable pair = true →
    ∃ document, toPair pair = .ok document ∧ Reading.paired (document.map reading) = .ok pair
  | none, _ => ⟨none, rfl, rfl⟩
  | some (key, value), able => by
      obtain ⟨here, there⟩ := Bool.and_eq_true_iff.mp able
      obtain ⟨keyFields, keyWritten, keyHolds⟩ := exists_toFields here
      obtain ⟨valueFields, written, holds⟩ := exists_toFields there
      refine ⟨some (.object [("key", .object keyFields), ("value", .object valueFields)]), ?_, ?_⟩
      · simp only [toPair, keyWritten, written]
        rfl
      · change (ofPair _).map some = _
        rw [ofPair_of_holds keyHolds holds]
        rfl

end

/-! ## Whole types -/

theorem exists_toDocument {type : Ty} (apart : NamesApart type) (plain : PlainKeys type) :
    ∃ document, type.toDocument = .ok document ∧ ofDocument document = .ok type := by
  have able : everywhere writable type = true :=
    (everywhere_and singlyNamed plainlyKeyed type).trans (Bool.and_eq_true_iff.mpr ⟨apart, plain⟩)
  obtain ⟨fields, written, holds⟩ := exists_toFields able
  refine ⟨.object fields, ?_, holds.reads⟩
  unfold toDocument
  rw [written]
  rfl

/-- **Types survive writing and reading.** A type in which no name stands directly around another
and whose property keys are plain has a document, and the document is read as the type. Whatever
document a type is read from, its names are apart, so it survives too when its keys are plain. -/
theorem ofDocument_toDocument :
    (∀ type : Ty, NamesApart type → PlainKeys type →
      ∃ document, type.toDocument = .ok document ∧ ofDocument document = .ok type) ∧
    ∀ (document : Document) (type : Ty), ofDocument document = .ok type →
      NamesApart type ∧
        (PlainKeys type →
          ∃ written, type.toDocument = .ok written ∧ ofDocument written = .ok type) := by
  constructor
  · intro type apart plain
    exact exists_toDocument apart plain
  · intro document type read
    have apart := namesApart_of_ofDocument document type read
    exact ⟨apart, exists_toDocument apart⟩

/-- A named object type with a property under each kind of plain key, one of them `name`, and
fields that hold named functions. -/
def crowded : Ty :=
  .named "row" (some "a row") (.object
    [(.null, .null), (.bool true, .named "type" none .number), (.string "name", .any []),
      (.number (.word (-3)), .set none)]
    (some (.string, .named "static" (some "") (.function
      [.array [.string, .any [.boolean, .null]] none] none (some (.set (some .string)))))))

/-- The crowded type has a document from which it is read. -/
theorem ofDocument_toDocument_crowded :
    ∃ document, crowded.toDocument = .ok document ∧ ofDocument document = .ok crowded ∧
      NamesApart crowded ∧
        ∃ written, crowded.toDocument = .ok written ∧ ofDocument written = .ok crowded := by
  have plain : PlainKeys crowded := by decide
  obtain ⟨document, written, read⟩ := ofDocument_toDocument.1 crowded (by decide) plain
  obtain ⟨apart, again⟩ := ofDocument_toDocument.2 document crowded read
  exact ⟨document, written, read, apart, again plain⟩

end Ty

end Rego
