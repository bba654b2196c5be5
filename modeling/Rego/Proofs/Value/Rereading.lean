import Rego.Proofs.Value.Preserving
import Rego.Proofs.Value.RoundTrip

/-!
# Which decoded values read back

A decoded value has no sets and no undefined parts, its keys are strings, and it nests no deeper than
its document (`Documentary`). This is not enough for its own encoding to decode to it again. A
literal beyond the doubles, with more than a thousand zeros behind its digits or with a fraction,
decodes to an infinity, which has no document. And the key of numbers in disguise means nothing
behind other keys of a document, but it is written in front of them, where it turns the object into
a number or into nothing (`not_all_read_back`). These are the only two reasons (`reads_back_iff`): a
decoded value has an encoding exactly when its numbers are finite, and reads back from it exactly
when, moreover, no object in it opens with a string under that key.
-/

namespace Rego

set_option autoImplicit false

/-! ## Validation keeps the depth -/

namespace Json

mutual

theorem depth_of_validate : ∀ (raw : Document.Raw) {document : Document},
    validate raw = some document → document.depth = raw.depth
  | .null, _, valid => by cases valid; rfl
  | .bool _, _, valid => by cases valid; rfl
  | .number _, _, valid => by cases valid; rfl
  | .string _, _, valid => by
      obtain ⟨text, _, rfl⟩ := Option.map_eq_some_iff.mp valid
      rfl
  | .array raws, _, valid => by
      obtain ⟨items, known, rfl⟩ := Option.map_eq_some_iff.mp valid
      rw [depth, depth, itemsDepth_of_validateItems raws known]
  | .object raws, _, valid => by
      obtain ⟨fields, known, rfl⟩ := Option.map_eq_some_iff.mp valid
      rw [depth, depth, fieldsDepth_of_validateFields raws known]

theorem itemsDepth_of_validateItems : ∀ (raws : List Document.Raw) {items : List Document},
    validateItems raws = some items → itemsDepth items = itemsDepth raws
  | [], _, valid => by cases valid; rfl
  | raw :: rest, _, valid => by
      unfold validateItems at valid
      obtain ⟨item, first, valid⟩ := Option.bind_eq_some_iff.mp valid
      obtain ⟨items, later, valid⟩ := Option.bind_eq_some_iff.mp valid
      cases valid
      rw [itemsDepth, itemsDepth, depth_of_validate raw first,
        itemsDepth_of_validateItems rest later]

theorem fieldsDepth_of_validateFields : ∀ (raws : List (Option String × Document.Raw))
    {fields : List (String × Document)}, validateFields raws = some fields →
    fieldsDepth fields = fieldsDepth raws
  | [], _, valid => by cases valid; rfl
  | (key, raw) :: rest, _, valid => by
      unfold validateFields at valid
      obtain ⟨name, _, valid⟩ := Option.bind_eq_some_iff.mp valid
      obtain ⟨value, first, valid⟩ := Option.bind_eq_some_iff.mp valid
      obtain ⟨fields, later, valid⟩ := Option.bind_eq_some_iff.mp valid
      cases valid
      rw [fieldsDepth, fieldsDepth, depth_of_validate raw first,
        fieldsDepth_of_validateFields rest later]

end

end Json

namespace Value

/-! ## What documents stand for -/

/-- A value without sets and undefined parts, with strings for keys, that nests within a limit. -/
inductive Documentary : Nat → Value → Prop where
  | null {limit : Nat} : Documentary limit .null
  | bool {limit : Nat} (value : Bool) : Documentary limit (.bool value)
  | number {limit : Nat} (value : Number) : Documentary limit (.number value)
  | string {limit : Nat} (text : String) : Documentary limit (.string text)
  | array {limit : Nat} {items : List Value} (all : ∀ item ∈ items, Documentary limit item) :
      Documentary (limit + 1) (.array items)
  | object {limit : Nat} {fields : List (Value × Value)}
      (names : ∀ field ∈ fields, ∃ name, field.1 = .string name)
      (all : ∀ field ∈ fields, Documentary limit field.2) :
      Documentary (limit + 1) (.object fields)

mutual

theorem documentary_of_ofDocument? : ∀ (document : Document) {limit : Nat} {value : Value},
    document.depth ≤ limit → ofDocument? document = some value → Documentary limit value
  | .null, _, _, _, read => by cases read; exact .null
  | .bool value, _, _, _, read => by cases read; exact .bool value
  | .string text, _, _, _, read => by cases read; exact .string text
  | .number _, _, _, _, read => by
      obtain ⟨number, _, rfl⟩ := Option.map_eq_some_iff.mp read
      exact .number number
  | .array documents, 0, _, shallow, _ => absurd shallow (Nat.not_succ_le_zero _)
  | .array documents, limit + 1, _, shallow, read => by
      obtain ⟨items, known, rfl⟩ := Option.map_eq_some_iff.mp read
      exact .array (documentary_of_ofItems? documents (Nat.le_of_succ_le_succ shallow) known)
  | .object fields, 0, _, shallow, _ => absurd shallow (Nat.not_succ_le_zero _)
  | .object fields, limit + 1, _, shallow, read => by
      unfold ofDocument? at read
      cases hidden : disguised? fields with
      | some hidden' =>
          rw [hidden] at read
          obtain ⟨number, rfl⟩ := exists_number_of_ofDisguised? read
          exact .number number
      | none =>
          rw [hidden] at read
          obtain ⟨entries, known, rfl⟩ := Option.map_eq_some_iff.mp read
          obtain ⟨names, all⟩ :=
            documentary_of_ofFields? fields (Nat.le_of_succ_le_succ shallow) known
          exact .object
            (@Fields.forall_key_ofList (fun key => ∃ name, key = .string name) entries names)
            (Fields.forall_value_ofList all)

theorem documentary_of_ofItems? : ∀ (documents : List Document) {limit : Nat} {items : List Value},
    Json.itemsDepth documents ≤ limit → ofItems? documents = some items →
    ∀ item ∈ items, Documentary limit item
  | [], _, _, _, read => by cases read; exact nofun
  | document :: rest, _, _, shallow, read => by
      obtain ⟨here, there⟩ := max_le_iff.mp shallow
      unfold ofItems? at read
      obtain ⟨item, first, read⟩ := Option.bind_eq_some_iff.mp read
      obtain ⟨items, later, read⟩ := Option.bind_eq_some_iff.mp read
      cases read
      exact List.forall_mem_cons.mpr
        ⟨documentary_of_ofDocument? document here first, documentary_of_ofItems? rest there later⟩

theorem documentary_of_ofFields? : ∀ (fields : List (String × Document)) {limit : Nat}
    {entries : List (Value × Value)}, Json.fieldsDepth fields ≤ limit →
    ofFields? fields = some entries →
    (∀ entry ∈ entries, ∃ name, entry.1 = .string name) ∧
      ∀ entry ∈ entries, Documentary limit entry.2
  | [], _, _, _, read => by cases read; exact ⟨nofun, nofun⟩
  | (key, document) :: rest, _, _, shallow, read => by
      obtain ⟨here, there⟩ := max_le_iff.mp shallow
      unfold ofFields? at read
      obtain ⟨value, first, read⟩ := Option.bind_eq_some_iff.mp read
      obtain ⟨entries, later, read⟩ := Option.bind_eq_some_iff.mp read
      cases read
      obtain ⟨names, all⟩ := documentary_of_ofFields? rest there later
      exact ⟨List.forall_mem_cons.mpr ⟨⟨key, rfl⟩, names⟩,
        List.forall_mem_cons.mpr ⟨documentary_of_ofDocument? document here first, all⟩⟩

end

/-- **A decoded value is documentary.** -/
theorem documentary_of_decode {bytes : List UInt8} {value : Value}
    (read : decode bytes = .ok value) : Documentary maxDepth value := by
  obtain ⟨raw, document, _, shallow, valid, known⟩ := decode_eq_ok_iff.mp read
  rw [← Json.depth_of_validate raw valid] at shallow
  exact documentary_of_ofDocument? document shallow known

/-! ## Parts of containers -/

/-- What splits at the head of every list holds of all members. -/
theorem forall_mem_of_cons {Part : Type} {whole : List Part → Prop} {each : Part → Prop}
    (nil : whole []) (cons : ∀ head tail, whole (head :: tail) ↔ each head ∧ whole tail)
    (parts : List Part) : whole parts ↔ ∀ part ∈ parts, each part := by
  induction parts with
  | nil => exact iff_of_true nil (List.forall_mem_nil _)
  | cons head tail ih => rw [cons, ih, List.forall_mem_cons]

theorem itemsDepth_le_iff {items : List Value} {limit : Nat} :
    itemsDepth items ≤ limit ↔ ∀ item ∈ items, depth item ≤ limit :=
  @forall_mem_of_cons _ (itemsDepth · ≤ limit) (depth · ≤ limit) (Nat.zero_le _)
    (fun _ _ => max_le_iff) items

theorem fieldsDepth_le_iff {fields : List (Value × Value)} {limit : Nat} :
    fieldsDepth fields ≤ limit ↔ ∀ field ∈ fields, depth field.2 ≤ limit :=
  @forall_mem_of_cons _ (fieldsDepth · ≤ limit) (depth ·.2 ≤ limit) (Nat.zero_le _)
    (fun _ _ => max_le_iff) fields

theorem itemsPlain_iff {items : List Value} : ItemsPlain items ↔ ∀ item ∈ items, Plain item :=
  forall_mem_of_cons trivial (fun _ _ => Iff.rfl) items

theorem fieldsPlain_iff {fields : List (Value × Value)} :
    FieldsPlain fields ↔ ∀ field ∈ fields, (∃ name, field.1 = .string name) ∧ Plain field.2 :=
  forall_mem_of_cons trivial (fun _ _ => and_assoc.symm) fields

theorem itemsEncodable_iff {items : List Value} :
    ItemsEncodable items ↔ ∀ item ∈ items, Encodable item :=
  forall_mem_of_cons trivial (fun _ _ => Iff.rfl) items

theorem fieldsEncodable_iff {fields : List (Value × Value)} :
    FieldsEncodable fields ↔ ∀ field ∈ fields, Encodable field.1 ∧ Encodable field.2 :=
  forall_mem_of_cons trivial (fun _ _ => and_assoc.symm) fields

theorem itemsUndisguised_iff {items : List Value} :
    ItemsUndisguised items ↔ ∀ item ∈ items, Undisguised item :=
  forall_mem_of_cons trivial (fun _ _ => Iff.rfl) items

theorem fieldsUndisguised_iff {fields : List (Value × Value)} :
    FieldsUndisguised fields ↔ ∀ field ∈ fields, Undisguised field.2 :=
  forall_mem_of_cons trivial (fun _ _ => Iff.rfl) fields

theorem forall_itemNumbers_iff {allowed : Number → Prop} {items : List Value} :
    (∀ number ∈ itemNumbers items, allowed number) ↔
      ∀ item ∈ items, ∀ number ∈ item.numbers, allowed number := by
  induction items with
  | nil => exact ⟨fun _ => List.forall_mem_nil _, fun _ => List.forall_mem_nil _⟩
  | cons item rest ih => rw [itemNumbers, List.forall_mem_append, ih, List.forall_mem_cons]

theorem forall_fieldNumbers_iff {allowed : Number → Prop} {fields : List (Value × Value)} :
    (∀ number ∈ fieldNumbers fields, allowed number) ↔
      ∀ field ∈ fields, (∀ number ∈ field.1.numbers, allowed number) ∧
        ∀ number ∈ field.2.numbers, allowed number := by
  induction fields with
  | nil => exact ⟨fun _ => List.forall_mem_nil _, fun _ => List.forall_mem_nil _⟩
  | cons field rest ih =>
      rw [fieldNumbers, List.forall_mem_append, List.forall_mem_append, ih, List.forall_mem_cons]

namespace Documentary

variable {limit : Nat} {value : Value}

theorem depth_le (known : Documentary limit value) : depth value ≤ limit := by
  induction known with
  | array _ ih => exact Nat.succ_le_succ (itemsDepth_le_iff.mpr ih)
  | object _ _ ih => exact Nat.succ_le_succ (fieldsDepth_le_iff.mpr ih)
  | _ => exact Nat.zero_le _

theorem plain (known : Documentary limit value) : Plain value := by
  induction known with
  | array _ ih => exact itemsPlain_iff.mpr ih
  | object names _ ih =>
      exact fieldsPlain_iff.mpr fun field member => ⟨names field member, ih field member⟩
  | _ => trivial

/-- A documentary value is encodable when its numbers are finite. -/
theorem encodable_iff (known : Documentary limit value) :
    Encodable value ↔ ∀ number ∈ value.numbers, number.isFinite = true := by
  induction known with
  | number value => rw [Encodable, numbers, List.forall_mem_singleton]
  | array _ ih =>
      rw [Encodable, itemsEncodable_iff, numbers, forall_itemNumbers_iff]
      exact forall₂_congr ih
  | object names _ ih =>
      rw [Encodable, fieldsEncodable_iff, numbers, forall_fieldNumbers_iff]
      refine forall₂_congr fun field member => and_congr ?_ (ih field member)
      obtain ⟨name, key⟩ := names field member
      rw [key]
      exact ⟨fun _ => List.forall_mem_nil _, fun _ => trivial⟩
  | _ => exact ⟨fun _ => List.forall_mem_nil _, fun _ => trivial⟩

end Documentary

/-! ## Reading back -/

/-- The document of a value stands for a value equal to it. -/
def ReadsBack (value : Value) : Prop :=
  ∃ again, ofDocument? (document value) = some again ∧ again.equals value = true

/-- Items that read back together do so one by one. -/
theorem readsBack_of_items {items decoded : List Value}
    (read : ofItems? (documentItems items) = some decoded)
    (same : equalItems decoded items = true) : ∀ item ∈ items, ReadsBack item := by
  induction items generalizing decoded with
  | nil => exact List.forall_mem_nil _
  | cons item rest ih =>
      unfold documentItems ofItems? at read
      obtain ⟨first, here, read⟩ := Option.bind_eq_some_iff.mp read
      obtain ⟨later, there, read⟩ := Option.bind_eq_some_iff.mp read
      cases read
      obtain ⟨one, others⟩ := Bool.and_eq_true_iff.mp same
      exact List.forall_mem_cons.mpr ⟨⟨first, here, one⟩, ih there others⟩

/-- Field values that read back together do so one by one. -/
theorem readsBack_of_fields {fields entries : List (Value × Value)}
    (read : ofFields? (documentFields fields) = some entries)
    (same : equalFields entries fields = true) : ∀ field ∈ fields, ReadsBack field.2 := by
  induction fields generalizing entries with
  | nil => exact List.forall_mem_nil _
  | cons field rest ih =>
      unfold documentFields ofFields? at read
      obtain ⟨first, here, read⟩ := Option.bind_eq_some_iff.mp read
      obtain ⟨later, there, read⟩ := Option.bind_eq_some_iff.mp read
      cases read
      simp only [equalFields, Bool.and_eq_true] at same
      obtain ⟨⟨_, one⟩, others⟩ := same
      exact List.forall_mem_cons.mpr ⟨⟨first, here, one⟩, ih there others⟩

/-- Keys that are strings are read as they were written. -/
theorem keys_of_ofFields? {fields entries : List (Value × Value)}
    (names : ∀ field ∈ fields, ∃ name, field.1 = .string name)
    (read : ofFields? (documentFields fields) = some entries) :
    entries.map Prod.fst = fields.map Prod.fst := by
  induction fields generalizing entries with
  | nil => cases read; rfl
  | cons field rest ih =>
      obtain ⟨⟨name, key⟩, others⟩ := List.forall_mem_cons.mp names
      unfold documentFields ofFields? at read
      obtain ⟨first, _, read⟩ := Option.bind_eq_some_iff.mp read
      obtain ⟨later, there, read⟩ := Option.bind_eq_some_iff.mp read
      cases read
      rw [List.map_cons, List.map_cons, ih others there, key]
      rfl

/-- Fields that open like a number in disguise are read as one. -/
theorem exists_disguised_of_open : ∀ {fields : List (Value × Value)}, OpenDisguised fields →
    ∃ hidden, disguised? (documentFields fields) = some hidden
  | (.string _, .string literal) :: rest, rfl =>
      ⟨(literal, !(documentFields rest).isEmpty), by simp [documentFields, document, keyString,
        disguised?]⟩

/-- **A value that reads back has no object that opens like a number in disguise.** -/
theorem Documentary.undisguised {limit : Nat} {value : Value} (known : Documentary limit value)
    (formed : value.WellFormed) (back : ReadsBack value) : Undisguised value := by
  induction known with
  | array _ ih =>
      obtain ⟨again, read, same⟩ := back
      obtain ⟨decoded, found, rfl⟩ := Option.map_eq_some_iff.mp read
      have parts := readsBack_of_items found same
      exact itemsUndisguised_iff.mpr fun item member =>
        ih item member (wellFormed_array_iff.mp formed item member) (parts item member)
  | @object _ fields names _ ih =>
      obtain ⟨again, read, same⟩ := back
      unfold document ofDocument? at read
      cases hidden : disguised? (documentFields fields) with
      | some hidden' =>
          rw [hidden] at read
          obtain ⟨number, rfl⟩ := exists_number_of_ofDisguised? read
          cases same
      | none =>
          rw [hidden] at read
          obtain ⟨entries, found, rfl⟩ := Option.map_eq_some_iff.mp read
          obtain ⟨all, ascending⟩ := wellFormed_object_iff.mp formed
          -- The entries have the keys of the fields, so entering them changes nothing.
          have entered : Fields.Ascending entries := by
            rw [Fields.ascending_iff_keys, keys_of_ofFields? names found,
              ← Fields.ascending_iff_keys]
            exact ascending
          rw [Fields.ofList_of_ascending entered] at same
          have parts := readsBack_of_fields found same
          refine ⟨fun opened => ?_, fieldsUndisguised_iff.mpr fun field member =>
            ih field member (all field member).2 (parts field member)⟩
          obtain ⟨hidden', taken⟩ := exists_disguised_of_open opened
          rw [hidden] at taken
          cases taken
  | _ => trivial

/-- The text of a value decodes to what its document stands for. -/
theorem decode_text_iff {value again : Value} (known : Encodable value)
    (shallow : depth value ≤ maxDepth) :
    decode (Text.bytes (document value).text) = .ok again ↔
      ofDocument? (document value) = some again := by
  rw [decode_eq_ok_iff, Document.ofBytes?_text (hasNumerals_document value known)]
  simp [shallow]

/-- **Which decoded values read back.** A decoded value has an encoding exactly when its numbers are
finite; and the encoding decodes to an equal value exactly when, moreover, no object opens like a
number in disguise. -/
theorem reads_back_iff {bytes : List UInt8} {value : Value} (read : decode bytes = .ok value) :
    ((∃ text, encode value = .ok text) ↔ ∀ number ∈ value.numbers, number.isFinite = true) ∧
    ((∃ text again, encode value = .ok text ∧ decode (Text.bytes text) = .ok again ∧
        again.equals value = true) ↔
      (∀ number ∈ value.numbers, number.isFinite = true) ∧ Undisguised value) := by
  have known := documentary_of_decode read
  have formed := wellFormed_of_decode read
  rw [← known.encodable_iff]
  refine ⟨exists_encode_iff, ?_, ?_⟩
  · rintro ⟨text, again, written, reread, same⟩
    have encodable := exists_encode_iff.mp ⟨text, written⟩
    rw [encode_of_encodable encodable] at written
    cases written
    have found := (decode_text_iff encodable known.depth_le).mp reread
    exact ⟨encodable, known.undisguised formed ⟨again, found, same⟩⟩
  · rintro ⟨encodable, undisguised⟩
    obtain ⟨again, found, same⟩ := ofDocument?_document value encodable undisguised
    rw [normal_eq_self value formed known.plain] at same
    exact ⟨_, again, encode_of_encodable encodable,
      (decode_text_iff encodable known.depth_le).mpr found, same⟩

/-- A repeated key and a literal with an exponent are written as they are meant, and read back. -/
theorem reads_back_iff_repeated :
    let value : Value := .array [.number (.word 100), .object [(.string "b", .bool true)]]
    decodeText "[1e2,\x7b\"b\":null,\"b\":true\x7d]" = .ok value ∧
    encode value = .ok "[100,\x7b\"b\":true\x7d]" ∧
    ∃ text again, encode value = .ok text ∧ decode (Text.bytes text) = .ok again ∧
      again.equals value = true := by
  intro value
  have literal : Number.ofText? "1e2" = some (.word 100) := by decide +kernel
  have read : decodeText "[1e2,\x7b\"b\":null,\"b\":true\x7d]" = .ok value := by
    refine decode_eq_ok_iff.mpr ⟨_,
      .array [.number "1e2", .object [("b", .null), ("b", .bool true)]],
      rfl, by decide, rfl, ?_⟩
    simp only [ofDocument?, ofItems?, literal]
    rfl
  refine ⟨read, by decide +kernel, (reads_back_iff read).2.mpr ⟨?_, ?_⟩⟩
  · simp [value, numbers, itemNumbers, fieldNumbers, Number.isFinite]
  · simp [value, Undisguised, ItemsUndisguised, FieldsUndisguised, OpenDisguised]

/-- An object with the key of numbers in disguise behind another key. -/
def lateDisguise : Document := .object [("a", .null), (Document.numberKey, .string "12")]

/-- What `lateDisguise` stands for, which has the keys in order. -/
def disguised : Value := .object [(.string Document.numberKey, .string "12"), (.string "a", .null)]

/-- The text of `lateDisguise`. -/
def lateText : String := "\x7b\"a\":null,\"$serde_json::private::Number\":\"12\"\x7d"

/-- The text of `disguised`. -/
def disguisedText : String := "\x7b\"$serde_json::private::Number\":\"12\",\"a\":null\x7d"

/-- **Not every decoded value reads back.** The nearest double to a literal with a thousand and one
zeros is an infinity, which has no document; and the text of `disguised`, which opens with the key
that `lateDisguise` ends with, is refused. -/
theorem not_all_read_back :
    (decodeText "1e1001" = .ok (.number (.float (.infinite false))) ∧
      encode (.number (.float (.infinite false))) = .error (.unencodable "inf")) ∧
    decodeText lateText = .ok disguised ∧ encode disguised = .ok disguisedText ∧
      decodeText disguisedText = .error .decode := by
  have encodable : Encodable disguised := ⟨trivial, trivial, trivial, trivial, trivial⟩
  have written : (document disguised).text = disguisedText := rfl
  refine ⟨⟨?overflow, rfl⟩, ?late, written ▸ encode_of_encodable encodable, ?early⟩
  case overflow =>
    have literal : Number.ofText? "1e1001" = some (.float (.infinite false)) := by decide +kernel
    exact decode_eq_ok_iff.mpr ⟨.number "1e1001", .number "1e1001", rfl, by decide, rfl,
      congrArg (Option.map number) literal⟩
  case late =>
    have text : lateDisguise.text = lateText := rfl
    have numerals : Json.HasNumerals lateDisguise := ⟨trivial, trivial, trivial⟩
    have found : ofDocument? lateDisguise = some disguised := rfl
    exact text ▸ decode_of_ofBytes? (Document.ofBytes?_text numerals) (by decide) found
  case early =>
    rw [← written, decodeText, decode, Document.ofBytes?_text (hasNumerals_document _ encodable)]
    rfl

end Value

end Rego
