import Rego.Json.Ordered
import Rego.Proofs.Json.Layout

/-!
# Documents that are in order

A document whose fields ascend, key by key, and whose numbers are numerals is its own ordered form
(`RegularFields.regular`), unless the key of numbers in disguise opens one of its objects. Setting a
field keeps the fields of an object so (`RegularFields.put`). What is written of such a document is
read as the document itself, within the depth limit (`Regular.ofRaw?_raw`).
-/

namespace Rego

set_option autoImplicit false

namespace Json

theorem itemsHaveNumerals_iff {items : List Document} :
    ItemsHaveNumerals items ↔ ∀ item ∈ items, HasNumerals item := by
  induction items with
  | nil => exact ⟨fun _ => nofun, fun _ => trivial⟩
  | cons item rest ih => rw [ItemsHaveNumerals, ih, List.forall_mem_cons]

theorem fieldsHaveNumerals_iff {fields : List (String × Document)} :
    FieldsHaveNumerals fields ↔ ∀ field ∈ fields, HasNumerals field.2 := by
  induction fields with
  | nil => exact ⟨fun _ => nofun, fun _ => trivial⟩
  | cons field rest ih => rw [FieldsHaveNumerals, ih, List.forall_mem_cons]

theorem hasNumerals_texts (texts : List String) : HasNumerals (.array (texts.map .string)) := by
  refine itemsHaveNumerals_iff.mpr fun item member => ?_
  obtain ⟨text, _, rfl⟩ := List.mem_map.mp member
  trivial

end Json

/-- A numeral consists of digits, a minus sign and a point. -/
theorem Numeral.mem_text (numeral : Numeral) {character : Char}
    (member : character ∈ numeral.text) :
    character = '-' ∨ character = '.' ∨ Radix.isDecimalDigit character = true := by
  have plain : ∀ character ∈ numeral.whole ++ numeral.fraction,
      character = '.' ∨ Radix.isDecimalDigit character = true := by
    intro character member
    rcases List.mem_append.mp member with whole | fraction
    · exact .inr (numeral.whole_digits character whole)
    · unfold Numeral.fraction at fraction
      split at fraction
      · cases fraction
      · exact (List.mem_cons.mp fraction).imp_right (numeral.places_digits character)
  unfold text Double.withSign at member
  split at member
  · exact (List.mem_cons.mp member).imp_right (plain character)
  · exact .inr (plain character member)

namespace Document

variable {fields rest : List (String × Document)} {field : String × Document} {key : String}
  {document : Document}

/-! ## Ascending fields -/

/-- The keys of fields ascend strictly. -/
def Ascending (fields : List (String × Document)) : Prop :=
  fields.Pairwise fun left right => compare left.1 right.1 = .lt

theorem put_cons_of_lt (later : compare field.1 key = .lt) (document : Document)
    (rest : List (String × Document)) :
    put key document (field :: rest) = field :: put key document rest := by
  have more : compare key field.1 = .gt := Std.OrientedCmp.gt_of_lt later
  simp only [put, more]

/-- A key beyond all others comes last. -/
theorem put_of_last (document : Document) (last : ∀ field ∈ fields, compare field.1 key = .lt) :
    put key document fields = fields ++ [(key, document)] := by
  induction fields with
  | nil => rfl
  | cons field rest ih =>
      obtain ⟨first, later⟩ := List.forall_mem_cons.mp last
      rw [put_cons_of_lt first, ih later, List.cons_append]

/-- Ascending fields are in order already. -/
theorem orderFields_of_ascending (ascending : Ascending fields) : orderFields fields = fields := by
  suffices ∀ front, Ascending (front ++ fields) →
      fields.foldl (fun ordered field => put field.1 field.2 ordered) front = front ++ fields from
    this [] ascending
  clear ascending
  induction fields with
  | nil => exact fun front _ => (List.append_nil front).symm
  | cons field rest ih =>
      intro front ascending
      have last : ∀ earlier ∈ front, compare earlier.1 field.1 = .lt := fun earlier member =>
        (List.pairwise_append.mp ascending).2.2 earlier member field List.mem_cons_self
      rw [List.foldl_cons, put_of_last field.2 last, ih, List.append_assoc, List.singleton_append]
      rwa [List.append_assoc, List.singleton_append]

/-- The fields after setting one are that one and fields that were there. -/
theorem mem_put (member : field ∈ put key document fields) :
    field = (key, document) ∨ field ∈ fields := by
  induction fields with
  | nil => exact .inl (List.mem_singleton.mp member)
  | cons first rest ih =>
      unfold put at member
      split at member
      · exact List.mem_cons.mp member
      · exact (List.mem_cons.mp member).imp_right (List.mem_cons_of_mem _)
      · rcases List.mem_cons.mp member with rfl | later
        · exact .inr List.mem_cons_self
        · exact (ih later).imp_right (List.mem_cons_of_mem _)

/-- Setting a field keeps fields ascending. -/
theorem ascending_put (ascending : Ascending fields) (key : String) (document : Document) :
    Ascending (put key document fields) := by
  induction fields with
  | nil => exact List.pairwise_singleton _ _
  | cons first rest ih =>
      obtain ⟨least, later⟩ := List.pairwise_cons.mp ascending
      unfold put
      split
      · next before =>
          refine List.pairwise_cons.mpr ⟨List.forall_mem_cons.mpr ⟨before, ?_⟩, ascending⟩
          exact fun field member => Std.TransCmp.lt_trans before (least field member)
      · next same =>
          rw [Std.LawfulEqCmp.eq_of_compare same]
          exact List.pairwise_cons.mpr ⟨least, later⟩
      · next after =>
          refine List.pairwise_cons.mpr ⟨fun field member => ?_, ih later⟩
          rcases mem_put member with rfl | member
          · exact Std.OrientedCmp.lt_of_gt after
          · exact least field member

/-! ## Regular documents -/

/-- A document whose numbers are numerals and which is its own ordered form. -/
structure Regular (document : Document) : Prop where
  numerals : Json.HasNumerals document
  ordered : ordered? document = some document

/-- Fields that are those of a regular document, whichever of them stands first. -/
structure RegularFields (fields : List (String × Document)) : Prop where
  ascending : Ascending fields
  undisguised : ∀ field ∈ fields, field.1 ≠ numberKey
  each : ∀ field ∈ fields, Regular field.2

theorem regular_null : Regular .null := ⟨trivial, rfl⟩

theorem regular_bool (value : Bool) : Regular (.bool value) := ⟨trivial, rfl⟩

theorem regular_string (text : String) : Regular (.string text) := ⟨trivial, rfl⟩

/-- A numeral has no exponent to be made uniform. -/
theorem uniformLiteral_numeral (numeral : Numeral) :
    uniformLiteral numeral.text = numeral.text := by
  have unmarked : ∀ character ∈ numeral.text,
      (!(character == 'e' || character == 'E')) = true := by
    intro character member
    rcases numeral.mem_text member with rfl | rfl | digit
    · rfl
    · rfl
    · have small : character ≠ 'e' := NumberLiteral.ne_of_digit digit rfl
      have capital : character ≠ 'E' := NumberLiteral.ne_of_digit digit rfl
      simp [small, capital]
  have none := List.dropWhile_eq_nil_iff.mpr unmarked
  unfold uniformLiteral
  simp only [none]

theorem regular_numeral (numeral : Numeral) :
    Regular (.number (String.ofList numeral.text)) where
  numerals := ⟨numeral, rfl⟩
  ordered := by rw [ordered?, ofLiteral, String.toList_ofList, uniformLiteral_numeral]

theorem regular_array {items : List Document} (each : ∀ item ∈ items, Regular item) :
    Regular (.array items) where
  numerals := Json.itemsHaveNumerals_iff.mpr fun item member => (each item member).numerals
  ordered := by
    have ordered : orderedItems? items = some items := by
      induction items with
      | nil => rfl
      | cons item rest ih =>
          obtain ⟨first, later⟩ := List.forall_mem_cons.mp each
          rw [orderedItems?, first.ordered, ih later]
          rfl
    rw [ordered?, ordered]
    rfl

/-- **Regular fields make a regular document.** -/
theorem RegularFields.regular (regular : RegularFields fields) : Regular (.object fields) where
  numerals := Json.fieldsHaveNumerals_iff.mpr fun field member =>
    (regular.each field member).numerals
  ordered := by
    obtain ⟨ascending, undisguised, each⟩ := regular
    have ordered : orderedFields? fields = some fields := by
      clear ascending undisguised
      induction fields with
      | nil => rfl
      | cons field rest ih =>
          obtain ⟨first, later⟩ := List.forall_mem_cons.mp each
          rw [orderedFields?, first.ordered, ih later]
          rfl
    cases fields with
    | nil => rfl
    | cons field rest =>
        unfold ordered?
        rw [if_neg (undisguised field List.mem_cons_self), ordered, Option.map_some,
          orderFields_of_ascending ascending]

theorem regularFields_singleton (undisguised : key ≠ numberKey) (regular : Regular document) :
    RegularFields [(key, document)] where
  ascending := List.pairwise_singleton _ _
  undisguised := List.forall_mem_singleton.mpr undisguised
  each := List.forall_mem_singleton.mpr regular

/-- Setting a field to a regular document keeps fields regular. -/
theorem RegularFields.put (fields_regular : RegularFields fields) (undisguised : key ≠ numberKey)
    (regular : Regular document) : RegularFields (Document.put key document fields) where
  ascending := ascending_put fields_regular.ascending key document
  undisguised := by
    intro field member
    rcases mem_put member with rfl | member
    · exact undisguised
    · exact fields_regular.undisguised field member
  each := by
    intro field member
    rcases mem_put member with rfl | member
    · exact regular
    · exact fields_regular.each field member

/-- **A regular document within the limit is read as itself.** -/
theorem Regular.ofRaw?_raw (regular : Regular document) {limit : Nat}
    (shallow : document.depth ≤ limit) : ofRaw? limit (Json.raw document) = some document := by
  rw [ofRaw?, Json.depth_raw, if_pos shallow, Json.validate_raw, Option.bind_some, regular.ordered]

end Document

end Rego
