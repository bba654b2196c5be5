import Rego.Proofs.Json.Quoted
import Rego.Proofs.Number.Numeral

/-!
# Spelled documents

A text spells a document when it is made of the document's tokens with white space anywhere between
them (`Spells`); numbers are numerals. The reader finds the document in front of any text that does
not continue it (`readValue_of_spells`), and a whole text that spells a document is read as that
document (`ofBytes?_of_spells`).

The reader's bound counts down on the way into a document. A token costs the bound one and the text
at least one byte, and each container, item and field has two of them, so twice the length of a text
is enough for it.
-/

namespace Rego

set_option autoImplicit false

namespace Json

open Text

/-! ## Documents as read -/

mutual

/-- A document as the reader returns it when all its string literals spell texts. -/
def raw : Document → Document.Raw
  | .null => .null
  | .bool value => .bool value
  | .number literal => .number literal
  | .string text => .string (some text)
  | .array items => .array (rawItems items)
  | .object fields => .object (rawFields fields)
termination_by structural document => document

/-- Items as the reader returns them. -/
def rawItems : List Document → List Document.Raw
  | [] => []
  | item :: rest => raw item :: rawItems rest
termination_by structural items => items

/-- Fields as the reader returns them. -/
def rawFields : List (String × Document) → List (Option String × Document.Raw)
  | [] => []
  | (key, value) :: rest => (some key, raw value) :: rawFields rest
termination_by structural fields => fields

end

mutual

@[simp] theorem validate_raw : ∀ document : Document, validate (raw document) = some document
  | .null => rfl
  | .bool _ => rfl
  | .number _ => rfl
  | .string _ => rfl
  | .array items => by rw [raw, validate, validateItems_rawItems items]; rfl
  | .object fields => by rw [raw, validate, validateFields_rawFields fields]; rfl

theorem validateItems_rawItems : ∀ items : List Document,
    validateItems (rawItems items) = some items
  | [] => rfl
  | item :: rest => by
      rw [rawItems, validateItems, validate_raw item, validateItems_rawItems rest]
      rfl

theorem validateFields_rawFields : ∀ fields : List (String × Document),
    validateFields (rawFields fields) = some fields
  | [] => rfl
  | (key, value) :: rest => by
      rw [rawFields, validateFields, validate_raw value, validateFields_rawFields rest]
      rfl

end

mutual

/-- A document as read whose string literals spell texts. -/
theorem eq_raw_of_validate : ∀ (read : Document.Raw) {document : Document},
    validate read = some document → read = raw document
  | .null, _, valid => by cases valid; rfl
  | .bool _, _, valid => by cases valid; rfl
  | .number _, _, valid => by cases valid; rfl
  | .string _, _, valid => by
      obtain ⟨text, rfl, rfl⟩ := Option.map_eq_some_iff.mp valid
      rfl
  | .array items, _, valid => by
      obtain ⟨known, each, rfl⟩ := Option.map_eq_some_iff.mp valid
      rw [eq_rawItems_of_validateItems items each, raw]
  | .object fields, _, valid => by
      obtain ⟨known, each, rfl⟩ := Option.map_eq_some_iff.mp valid
      rw [eq_rawFields_of_validateFields fields each, raw]

theorem eq_rawItems_of_validateItems : ∀ (read : List Document.Raw) {items : List Document},
    validateItems read = some items → read = rawItems items
  | [], _, valid => by cases valid; rfl
  | first :: rest, _, valid => by
      obtain ⟨item, head, valid⟩ := Option.bind_eq_some_iff.mp valid
      obtain ⟨items, tail, valid⟩ := Option.bind_eq_some_iff.mp valid
      cases valid
      rw [rawItems, ← eq_raw_of_validate first head, ← eq_rawItems_of_validateItems rest tail]

theorem eq_rawFields_of_validateFields : ∀ (read : List (Option String × Document.Raw))
    {fields : List (String × Document)},
    validateFields read = some fields → read = rawFields fields
  | [], _, valid => by cases valid; rfl
  | (name, first) :: rest, _, valid => by
      obtain ⟨key, named, valid⟩ := Option.bind_eq_some_iff.mp valid
      obtain ⟨value, head, valid⟩ := Option.bind_eq_some_iff.mp valid
      obtain ⟨fields, tail, valid⟩ := Option.bind_eq_some_iff.mp valid
      cases valid
      rw [rawFields, ← eq_raw_of_validate first head,
        ← eq_rawFields_of_validateFields rest tail, show name = some key from named]

end

mutual

@[simp] theorem depth_raw : ∀ document : Document, depth (raw document) = depth document
  | .null => rfl
  | .bool _ => rfl
  | .number _ => rfl
  | .string _ => rfl
  | .array items => by rw [raw, depth, depth, itemsDepth_rawItems items]
  | .object fields => by rw [raw, depth, depth, fieldsDepth_rawFields fields]

theorem itemsDepth_rawItems : ∀ items : List Document,
    itemsDepth (rawItems items) = itemsDepth items
  | [] => rfl
  | item :: rest => by
      rw [rawItems, itemsDepth, itemsDepth, depth_raw item, itemsDepth_rawItems rest]

theorem fieldsDepth_rawFields : ∀ fields : List (String × Document),
    fieldsDepth (rawFields fields) = fieldsDepth fields
  | [] => rfl
  | (key, value) :: rest => by
      rw [rawFields, fieldsDepth, fieldsDepth, depth_raw value, fieldsDepth_rawFields rest]

end

/-! ## The grammar -/

/-- White space, possibly none. -/
def Blank (space : List UInt8) : Prop := ∀ byte ∈ space, isBlankByte byte = true

mutual

/-- A text is made of the tokens of a document, with white space between them. -/
inductive Spells : Document → List UInt8 → Prop where
  | null : Spells .null (utf8 ['n', 'u', 'l', 'l'])
  | yes : Spells (.bool true) (utf8 ['t', 'r', 'u', 'e'])
  | no : Spells (.bool false) (utf8 ['f', 'a', 'l', 's', 'e'])
  | number (numeral : Numeral) : Spells (.number (String.ofList numeral.text)) (utf8 numeral.text)
  | string (text : String) : Spells (.string text) (utf8 (Quoted.encode text))
  | emptyArray {space : List UInt8} (blank : Blank space) :
      Spells (.array []) (0x5b :: (space ++ [0x5d]))
  | array {items : List Document} {body : List UInt8} (items_spelled : SpellsItems items body) :
      Spells (.array items) (0x5b :: body)
  | emptyObject {space : List UInt8} (blank : Blank space) :
      Spells (.object []) (0x7b :: (space ++ [0x7d]))
  | object {fields : List (String × Document)} {body : List UInt8}
      (fields_spelled : SpellsFields fields body) : Spells (.object fields) (0x7b :: body)

/-- A text is made of items with commas between them and the closing bracket. -/
inductive SpellsItems : List Document → List UInt8 → Prop where
  | last {item : Document} {before text after : List UInt8} (blank : Blank before)
      (item_spelled : Spells item text) (blank' : Blank after) :
      SpellsItems [item] (before ++ (text ++ (after ++ [0x5d])))
  | more {item : Document} {rest : List Document} {before text after body : List UInt8}
      (blank : Blank before) (item_spelled : Spells item text) (blank' : Blank after)
      (rest_spelled : SpellsItems rest body) :
      SpellsItems (item :: rest) (before ++ (text ++ (after ++ 0x2c :: body)))

/-- A text is made of a key, a colon and a value. -/
inductive SpellsField : String × Document → List UInt8 → Prop where
  | field (key : String) {value : Document} {before after text : List UInt8}
      (blank : Blank before) (blank' : Blank after) (value_spelled : Spells value text) :
      SpellsField (key, value)
        (utf8 (Quoted.encode key) ++ (before ++ 0x3a :: (after ++ text)))

/-- A text is made of fields with commas between them and the closing brace. -/
inductive SpellsFields : List (String × Document) → List UInt8 → Prop where
  | last {field : String × Document} {before text after : List UInt8} (blank : Blank before)
      (field_spelled : SpellsField field text) (blank' : Blank after) :
      SpellsFields [field] (before ++ (text ++ (after ++ [0x7d])))
  | more {field : String × Document} {rest : List (String × Document)}
      {before text after body : List UInt8} (blank : Blank before)
      (field_spelled : SpellsField field text) (blank' : Blank after)
      (rest_spelled : SpellsFields rest body) :
      SpellsFields (field :: rest) (before ++ (text ++ (after ++ 0x2c :: body)))

end

/-! ## White space and marks -/

theorem skipBlank_append {space : List UInt8} (blank : Blank space) (input : List UInt8) :
    skipBlank (space ++ input) = skipBlank input :=
  List.dropWhile_append_of_pos blank

theorem skipBlank_cons {byte : UInt8} (dark : isBlankByte byte = false) (rest : List UInt8) :
    skipBlank (byte :: rest) = byte :: rest :=
  List.dropWhile_cons_of_neg (by simp [dark])

theorem skipBlank_eq_nil {space : List UInt8} (blank : Blank space) : skipBlank space = [] :=
  List.dropWhile_eq_nil_iff.mpr blank

/-- White space and then a mark end whatever stands before them. -/
theorem ends_of_blank {space : List UInt8} (blank : Blank space) {tail : List UInt8}
    (ends : Numeral.Ends tail) : Numeral.Ends (space ++ tail) := by
  cases space with
  | nil => exact ends
  | cons byte rest =>
      intro first here
      cases here
      have known := blank byte List.mem_cons_self
      simp only [isBlankByte, Bool.or_eq_true, beq_iff_eq] at known
      rcases known with ((rfl | rfl) | rfl) | rfl <;> decide

theorem ends_mark {byte : UInt8} (rest : List UInt8) (digit : isDigitByte byte = false)
    (other : Char.ofUInt8 byte ≠ '.' ∧ Char.ofUInt8 byte ≠ 'e' ∧ Char.ofUInt8 byte ≠ 'E') :
    Numeral.Ends (byte :: rest) := by
  intro first here
  cases here
  exact ⟨digit, other⟩

/-- A document opens with a byte that is neither white space nor a closing bracket. -/
theorem Spells.exists_cons {document : Document} {text : List UInt8}
    (spelled : Spells document text) : ∃ byte rest, text = byte :: rest ∧
      isBlankByte byte = false ∧ Char.ofUInt8 byte ≠ ']' := by
  cases spelled with
  | null => exact ⟨_, _, rfl, by decide, by decide⟩
  | yes => exact ⟨_, _, rfl, by decide, by decide⟩
  | no => exact ⟨_, _, rfl, by decide, by decide⟩
  | string text => exact ⟨0x22, _, rfl, by decide, by decide⟩
  | emptyArray blank => exact ⟨_, _, rfl, by decide, by decide⟩
  | array items => exact ⟨_, _, rfl, by decide, by decide⟩
  | emptyObject blank => exact ⟨_, _, rfl, by decide, by decide⟩
  | object fields => exact ⟨_, _, rfl, by decide, by decide⟩
  | number numeral =>
      obtain ⟨first, rest, same, range⟩ := numeral.exists_text_eq_cons
      have ascii : first.toNat < 0x80 := by omega
      have value : (UInt8.ofNat first.toNat).toNat = first.toNat := by
        rw [UInt8.toNat_ofNat']
        omega
      refine ⟨UInt8.ofNat first.toNat, utf8 rest, ?_, ?_, ?_⟩
      · rw [same, utf8_cons, utf8EncodeChar_of_lt ascii]
        rfl
      · simp only [isBlankByte, Bool.or_eq_false_iff, beq_eq_false_iff_ne]
        refine ⟨⟨⟨?_, ?_⟩, ?_⟩, ?_⟩ <;>
          (intro bad; rw [bad] at value; simp at value; omega)
      · rw [ofUInt8_ofNat ascii]
        rintro rfl
        exact absurd range (by decide)

/-- The literal of a text is read to its closing quote. -/
theorem exists_readText (text : String) (tail : List UInt8) :
    ∃ rest, utf8 (Quoted.encode text) = 0x22 :: rest ∧
      readText (rest ++ tail) = some (some text, tail) := by
  obtain ⟨pieces, scanned, known⟩ := Quoted.scan_encode text.toList tail
  refine ⟨utf8 (text.toList.flatMap Quoted.escape) ++ [0x22], ?_, ?_⟩
  · unfold Quoted.encode
    rw [utf8_cons, utf8_append]
    rfl
  · have spelled : Quoted.spell? pieces = some text := by
      unfold Quoted.spell?
      rw [known, Option.bind_some, ← bytes_eq_utf8, ofBytes?_bytes]
    unfold readText
    rw [List.append_assoc, List.singleton_append, scanned]
    simp only [Option.map_some, spelled]

/-! ## Reading -/

theorem readMark_append {space : List UInt8} (blank : Blank space) {byte : UInt8}
    (dark : isBlankByte byte = false) (mark : Char) (rest : List UInt8) :
    readMark mark (space ++ byte :: rest) =
      if Char.ofUInt8 byte = mark then some rest else none := by
  unfold readMark
  rw [skipBlank_append blank, skipBlank_cons dark]

/-- White space before a value does not count. -/
theorem readValue_append {space : List UInt8} (blank : Blank space) (bound : Nat)
    (input : List UInt8) : readValue bound (space ++ input) = readValue bound input := by
  cases bound with
  | zero => rfl
  | succ bound => rw [readValue, readValue, skipBlank_append blank]

theorem readValue_number (numeral : Numeral) {tail : List UInt8} (ends : Numeral.Ends tail)
    (bound : Nat) :
    readValue (bound + 1) (utf8 numeral.text ++ tail) =
      some (.number (String.ofList numeral.text), tail) := by
  have read := numeral.readNumber_text ends
  obtain ⟨byte, rest, same, dark, _⟩ := (Spells.number numeral).exists_cons
  obtain ⟨first, others, opens, range⟩ := numeral.exists_text_eq_cons
  have head : Char.ofUInt8 byte = first := by
    rw [opens, utf8_cons, utf8EncodeChar_of_lt (by omega)] at same
    rw [← (List.cons.inj same).1]
    exact ofUInt8_ofNat (by omega)
  rw [same] at read ⊢
  rw [List.cons_append] at read ⊢
  rw [readValue, skipBlank_cons dark]
  simp only [head]
  split
  · exact absurd range (by decide)
  · exact absurd range (by decide)
  · exact absurd range (by decide)
  · exact absurd range (by decide)
  · exact absurd range (by decide)
  · exact absurd range (by decide)
  · rw [read]
    rfl

theorem readValue_string (text : String) (tail : List UInt8) (bound : Nat) :
    readValue (bound + 1) (utf8 (Quoted.encode text) ++ tail) =
      some (.string (some text), tail) := by
  obtain ⟨rest, same, read⟩ := exists_readText text tail
  rw [same, List.cons_append, readValue, skipBlank_cons (by decide)]
  change (readText (rest ++ tail)).map _ = _
  rw [read]
  rfl

theorem readValue_emptyArray {rest tail : List UInt8} (closed : readMark ']' rest = some tail)
    (bound : Nat) : readValue (bound + 1) (0x5b :: rest) = some (.array [], tail) := by
  have opened : Char.ofUInt8 0x5b = '[' := rfl
  rw [readValue, skipBlank_cons (by decide)]
  simp only [opened, closed]

theorem readValue_array {rest : List UInt8} (inhabited : readMark ']' rest = none) (bound : Nat) :
    readValue (bound + 1) (0x5b :: rest) =
      (readItems bound rest).map fun (items, rest) => (.array items, rest) := by
  have opened : Char.ofUInt8 0x5b = '[' := rfl
  rw [readValue, skipBlank_cons (by decide)]
  simp only [opened, inhabited]

theorem readValue_emptyObject {rest tail : List UInt8} (closed : readMark '\x7d' rest = some tail)
    (bound : Nat) : readValue (bound + 1) (0x7b :: rest) = some (.object [], tail) := by
  have opened : Char.ofUInt8 0x7b = '\x7b' := rfl
  rw [readValue, skipBlank_cons (by decide)]
  simp only [opened, closed]

theorem readValue_object {rest : List UInt8} (inhabited : readMark '\x7d' rest = none)
    (bound : Nat) : readValue (bound + 1) (0x7b :: rest) =
      (readFields bound rest).map fun (fields, rest) => (.object fields, rest) := by
  have opened : Char.ofUInt8 0x7b = '\x7b' := rfl
  rw [readValue, skipBlank_cons (by decide)]
  simp only [opened, inhabited]

theorem SpellsItems.readMark_eq_none {items : List Document} {body : List UInt8}
    (spelled : SpellsItems items body) (tail : List UInt8) :
    readMark ']' (body ++ tail) = none := by
  cases spelled with
  | last blank item _ =>
      obtain ⟨byte, rest, rfl, dark, other⟩ := item.exists_cons
      rw [List.append_assoc, List.cons_append, List.cons_append, readMark_append blank dark,
        if_neg other]
  | more blank item _ _ =>
      obtain ⟨byte, rest, rfl, dark, other⟩ := item.exists_cons
      rw [List.append_assoc, List.cons_append, List.cons_append, readMark_append blank dark,
        if_neg other]

theorem SpellsField.exists_cons {field : String × Document} {text : List UInt8}
    (spelled : SpellsField field text) : ∃ rest, text = 0x22 :: rest := by
  cases spelled with
  | field _ _ _ => exact ⟨_, rfl⟩

theorem SpellsFields.readMark_eq_none {fields : List (String × Document)} {body : List UInt8}
    (spelled : SpellsFields fields body) (tail : List UInt8) :
    readMark '\x7d' (body ++ tail) = none := by
  cases spelled with
  | last blank field _ =>
      obtain ⟨rest, rfl⟩ := field.exists_cons
      rw [List.append_assoc, List.cons_append, List.cons_append,
        readMark_append blank (by decide), if_neg (by decide)]
  | more blank field _ _ =>
      obtain ⟨rest, rfl⟩ := field.exists_cons
      rw [List.append_assoc, List.cons_append, List.cons_append,
        readMark_append blank (by decide), if_neg (by decide)]

section Sequences

variable {bound : Nat} {input after rest : List UInt8}

theorem readItems_last {item : Document.Raw}
    (first : readValue bound input = some (item, after ++ 0x5d :: rest)) (blank : Blank after) :
    readItems (bound + 1) input = some ([item], rest) := by
  rw [readItems, first]
  simp only [Option.bind_eq_bind, Option.bind_some]
  rw [skipBlank_append blank, skipBlank_cons (by decide)]
  rfl

theorem readItems_more {item : Document.Raw}
    (first : readValue bound input = some (item, after ++ 0x2c :: rest)) (blank : Blank after) :
    readItems (bound + 1) input =
      (readItems bound rest).map fun (items, rest) => (item :: items, rest) := by
  rw [readItems, first]
  simp only [Option.bind_eq_bind, Option.bind_some]
  rw [skipBlank_append blank, skipBlank_cons (by decide)]
  rfl

/-- A quote, a key, a colon and a value are read one after the other. -/
def ReadsField (bound : Nat) (input : List UInt8) (field : Option String × Document.Raw)
    (tail : List UInt8) : Prop :=
  ∃ opened named marked, readMark '"' input = some opened ∧
    readText opened = some (field.1, named) ∧ readMark ':' named = some marked ∧
    readValue bound marked = some (field.2, tail)

theorem readFields_last {field : Option String × Document.Raw}
    (first : ReadsField bound input field (after ++ 0x7d :: rest)) (blank : Blank after) :
    readFields (bound + 1) input = some ([field], rest) := by
  obtain ⟨opened, named, marked, quote, key, colon, value⟩ := first
  simp only [readFields, quote, key, colon, value, Option.bind_eq_bind, Option.bind_some]
  rw [skipBlank_append blank, skipBlank_cons (by decide)]
  rfl

theorem readFields_more {field : Option String × Document.Raw}
    (first : ReadsField bound input field (after ++ 0x2c :: rest)) (blank : Blank after) :
    readFields (bound + 1) input =
      (readFields bound rest).map fun (fields, rest) => (field :: fields, rest) := by
  obtain ⟨opened, named, marked, quote, key, colon, value⟩ := first
  simp only [readFields, quote, key, colon, value, Option.bind_eq_bind, Option.bind_some]
  rw [skipBlank_append blank, skipBlank_cons (by decide)]
  rfl

end Sequences

mutual

/-- **A spelled document is read in front of what does not continue it.** -/
theorem readValue_of_spells : ∀ {document : Document} {text : List UInt8},
    Spells document text → ∀ {tail : List UInt8}, Numeral.Ends tail →
    ∀ {bound : Nat}, 2 * text.length ≤ bound →
      readValue bound (text ++ tail) = some (raw document, tail)
  | _, _, .null, tail, _, bound + 1, _ => rfl
  | _, _, .yes, tail, _, bound + 1, _ => rfl
  | _, _, .no, tail, _, bound + 1, _ => rfl
  | _, _, .number numeral, tail, ends, bound, enough => by
      obtain ⟨_, _, same, _⟩ := (Spells.number numeral).exists_cons
      cases bound with
      | zero => rw [same] at enough; cases enough
      | succ bound => exact readValue_number numeral ends bound
  | _, _, .string text, tail, _, bound + 1, _ => readValue_string text tail bound
  | _, _, .emptyArray blank, tail, _, bound + 1, _ => by
      rw [List.cons_append, List.append_assoc, List.singleton_append]
      exact readValue_emptyArray (by rw [readMark_append blank (by decide)]; rfl) bound
  | _, _, .emptyObject blank, tail, _, bound + 1, _ => by
      rw [List.cons_append, List.append_assoc, List.singleton_append]
      exact readValue_emptyObject (by rw [readMark_append blank (by decide)]; rfl) bound
  | _, _, .array items, tail, _, bound + 1, enough => by
      rw [List.length_cons] at enough
      rw [List.cons_append, readValue_array (items.readMark_eq_none tail),
        readItems_of_spells items tail (by omega)]
      rfl
  | _, _, .object fields, tail, _, bound + 1, enough => by
      rw [List.length_cons] at enough
      rw [List.cons_append, readValue_object (fields.readMark_eq_none tail),
        readFields_of_spells fields tail (by omega)]
      rfl

theorem readItems_of_spells : ∀ {items : List Document} {body : List UInt8},
    SpellsItems items body → ∀ (tail : List UInt8) {bound : Nat}, 2 * body.length ≤ bound →
      readItems bound (body ++ tail) = some (rawItems items, tail)
  | _, _, .last blank item blank', tail, bound, enough => by
      simp only [List.length_append, List.length_singleton] at enough
      obtain ⟨bound, rfl⟩ := Nat.exists_eq_succ_of_ne_zero (show bound ≠ 0 by omega)
      have ends := ends_of_blank blank' (@ends_mark 0x5d tail (by decide) (by decide))
      have first := readValue_of_spells item ends (show _ ≤ bound by omega)
      rw [← readValue_append blank] at first
      simp only [List.append_assoc, List.singleton_append]
      exact readItems_last first blank'
  | _, _, @SpellsItems.more _ _ _ _ _ body blank item blank' rest, tail, bound, enough => by
      simp only [List.length_append, List.length_cons] at enough
      obtain ⟨bound, rfl⟩ := Nat.exists_eq_succ_of_ne_zero (show bound ≠ 0 by omega)
      have ends := ends_of_blank blank' (@ends_mark 0x2c (body ++ tail) (by decide) (by decide))
      have first := readValue_of_spells item ends (show _ ≤ bound by omega)
      rw [← readValue_append blank] at first
      simp only [List.append_assoc, List.cons_append]
      rw [readItems_more first blank', readItems_of_spells rest tail (by omega)]
      rfl

theorem readsField_of_spells : ∀ {field : String × Document} {text : List UInt8},
    SpellsField field text → ∀ {tail : List UInt8}, Numeral.Ends tail →
    ∀ {bound : Nat}, 2 * text.length ≤ bound → ∀ {space : List UInt8}, Blank space →
      ReadsField bound (space ++ (text ++ tail)) (some field.1, raw field.2) tail
  | _, _, .field key blank blank' value, tail, ends, bound, enough, space, first => by
      simp only [List.length_append, List.length_cons] at enough
      have last := readValue_of_spells value ends (show _ ≤ bound by omega)
      rw [← readValue_append blank'] at last
      simp only [List.append_assoc, List.cons_append]
      obtain ⟨literal, same, named⟩ := exists_readText key _
      refine ⟨_, _, _, ?_, named, ?_, last⟩
      · rw [same, List.cons_append, readMark_append first (by decide)]
        rfl
      · rw [readMark_append blank (by decide)]
        rfl

theorem readFields_of_spells : ∀ {fields : List (String × Document)} {body : List UInt8},
    SpellsFields fields body → ∀ (tail : List UInt8) {bound : Nat}, 2 * body.length ≤ bound →
      readFields bound (body ++ tail) = some (rawFields fields, tail)
  | _, _, .last blank field blank', tail, bound, enough => by
      simp only [List.length_append, List.length_singleton] at enough
      obtain ⟨bound, rfl⟩ := Nat.exists_eq_succ_of_ne_zero (show bound ≠ 0 by omega)
      have ends := ends_of_blank blank' (@ends_mark 0x7d tail (by decide) (by decide))
      have first := readsField_of_spells field ends (show _ ≤ bound by omega) blank
      simp only [List.append_assoc, List.singleton_append]
      exact readFields_last first blank'
  | _, _, @SpellsFields.more _ _ _ _ _ body blank field blank' rest, tail, bound, enough => by
      simp only [List.length_append, List.length_cons] at enough
      obtain ⟨bound, rfl⟩ := Nat.exists_eq_succ_of_ne_zero (show bound ≠ 0 by omega)
      have ends := ends_of_blank blank' (@ends_mark 0x2c (body ++ tail) (by decide) (by decide))
      have first := readsField_of_spells field ends (show _ ≤ bound by omega) blank
      simp only [List.append_assoc, List.cons_append]
      rw [readFields_more first blank', readFields_of_spells rest tail (by omega)]
      rfl

end

end Json

/-- **A text that spells a document, with white space around it, is read as the document.** -/
theorem Document.ofBytes?_of_spells {document : Document} {before text after : List UInt8}
    (blank : Json.Blank before) (spelled : Json.Spells document text)
    (blank' : Json.Blank after) :
    Document.ofBytes? (before ++ (text ++ after)) = some (Json.raw document) := by
  have ends : Numeral.Ends after := by
    have := Json.ends_of_blank blank' (show Numeral.Ends [] from nofun)
    rwa [List.append_nil] at this
  have read := Json.readValue_of_spells spelled ends
    (show _ ≤ 2 * (before ++ (text ++ after)).length + 2 by
      simp only [List.length_append]
      omega)
  rw [← Json.readValue_append blank] at read
  unfold Document.ofBytes?
  rw [read]
  exact if_pos (Json.skipBlank_eq_nil blank')

end Rego
