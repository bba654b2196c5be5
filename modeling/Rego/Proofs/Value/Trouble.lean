import Rego.Proofs.Value.Decoding

/-!
# What decoding meets first

Decoding is one pass over a text, and so it fails or ends the program according to what stands first
in it. A document is decoded exactly if there is nothing in it that decoding does not take or does
not survive (`trouble?_eq_none_iff`), so the order in which parts are met makes no difference to the
values of documents; it only decides between the two ways to come to none. The program ends exactly
if the first of them is a shift beyond the machine words (`decode_eq_shiftOverflow_iff`).
-/

namespace Rego

set_option autoImplicit false

/-- A text that is read as a document begins this document. -/
theorem Document.beginning_of_ofBytes? {bytes : List UInt8} {document : Document.Raw}
    (read : ofBytes? bytes = some document) : beginning bytes = document := by
  unfold ofBytes? at read
  unfold beginning Json.beginValue
  split at read
  · next whole rest found =>
      rw [found]
      exact Option.some.inj (Option.ite_none_right_eq_some.mp read).2
  · cases read

namespace Value

open Json (validate validateItems validateFields)

/-! ## Parts of documents -/

/-- A literal gives no trouble exactly if it is read. -/
theorem literalTrouble?_eq_none_iff {text : String} :
    literalTrouble? text = none ↔ ∃ number, Number.ofText? text = some number := by
  unfold literalTrouble? Number.ofText?
  cases Number.ofText text with
  | ok number => simp [Except.toOption]
  | error error => cases error <;> simp [Except.toOption]

/-- The items of a list are decoded one by one. -/
theorem decodedItems_cons (raw : Document.Raw) (rest : List Document.Raw) :
    (validateItems (raw :: rest)).bind ofItems? =
      ((validate raw).bind ofDocument?).bind fun value =>
        ((validateItems rest).bind ofItems?).map (value :: ·) := by
  rw [validateItems]
  cases validate raw with
  | none => rfl
  | some document =>
      cases validateItems rest with
      | none => simp
      | some documents =>
          simp only [Option.bind_eq_bind, Option.bind_some, Option.pure_def, ofItems?]
          cases ofDocument? document <;> cases ofItems? documents <;> rfl

/-- The fields of a list are decoded one by one. -/
theorem decodedFields_cons (key : String) (raw : Document.Raw)
    (rest : List (Option String × Document.Raw)) :
    (validateFields ((some key, raw) :: rest)).bind ofFields? =
      ((validate raw).bind ofDocument?).bind fun value =>
        ((validateFields rest).bind ofFields?).map ((.string key, value) :: ·) := by
  rw [validateFields]
  cases validate raw with
  | none => rfl
  | some document =>
      cases validateFields rest with
      | none => simp
      | some documents =>
          simp only [Option.bind_eq_bind, Option.bind_some, Option.pure_def, ofFields?]
          cases ofDocument? document <;> cases ofFields? documents <;> rfl

/-- A number in disguise is the string under the first key. -/
theorem rawDisguised?_eq_some {raws : List (Option String × Document.Raw)} {literal : String}
    {crowded : Bool} (hidden : rawDisguised? raws = some (literal, crowded)) :
    ∃ rest, raws = (some Document.numberKey, .string (some literal)) :: rest ∧
      crowded = !rest.isEmpty := by
  unfold rawDisguised? at hidden
  split at hidden
  · next key text rest =>
      obtain ⟨rfl, same⟩ := Option.ite_none_right_eq_some.mp hidden
      cases same
      exact ⟨rest, rfl, rfl⟩
  · cases hidden

/-- It is seen as one before the rest of its object is. -/
theorem rawDisguised?_eq {raws : List (Option String × Document.Raw)}
    {fields : List (String × Document)} (valid : validateFields raws = some fields) :
    rawDisguised? raws = disguised? fields := by
  cases raws with
  | nil =>
      cases valid
      rfl
  | cons raw rest =>
      obtain ⟨key, raw⟩ := raw
      obtain ⟨name, rfl, valid⟩ := Option.bind_eq_some_iff.mp valid
      obtain ⟨document, first, valid⟩ := Option.bind_eq_some_iff.mp valid
      obtain ⟨documents, later, valid⟩ := Option.bind_eq_some_iff.mp valid
      cases valid
      have together : rest.isEmpty = documents.isEmpty := by
        cases rest with
        | nil =>
            cases later
            rfl
        | cons next _ =>
            obtain ⟨_, _, later⟩ := Option.bind_eq_some_iff.mp later
            obtain ⟨_, _, later⟩ := Option.bind_eq_some_iff.mp later
            obtain ⟨_, _, later⟩ := Option.bind_eq_some_iff.mp later
            cases later
            rfl
      cases raw with
      | string text =>
          obtain ⟨spelled, rfl, rfl⟩ := Option.map_eq_some_iff.mp first
          rw [rawDisguised?, disguised?, together]
      | array _ =>
          obtain ⟨_, _, rfl⟩ := Option.map_eq_some_iff.mp first
          rfl
      | object _ =>
          obtain ⟨_, _, rfl⟩ := Option.map_eq_some_iff.mp first
          rfl
      | _ =>
          cases first
          rfl

/-- An object without a number in disguise stands for its fields. -/
theorem decoded_object_of_plain {raws : List (Option String × Document.Raw)}
    (plain : rawDisguised? raws = none) :
    (validate (.object raws)).bind ofDocument? =
      ((validateFields raws).bind ofFields?).map
        fun entries => .object (Fields.ofList entries) := by
  rw [validate]
  cases valid : validateFields raws with
  | none => rfl
  | some fields =>
      rw [Option.map_some, Option.bind_some, Option.bind_some, ofDocument?,
        ← rawDisguised?_eq valid, plain]

/-- An object that opens like a number in disguise stands for this number, if for anything. -/
theorem decoded_object_of_disguised {raws : List (Option String × Document.Raw)}
    {literal : String} {crowded : Bool} (disguised : rawDisguised? raws = some (literal, crowded)) :
    (validate (.object raws)).bind ofDocument? = ofDisguised? (literal, crowded) := by
  rw [validate]
  cases valid : validateFields raws with
  | some fields =>
      rw [Option.map_some, Option.bind_some, ofDocument?, ← rawDisguised?_eq valid, disguised]
  | none =>
      -- Only fields behind the first can keep such an object from being valid.
      obtain ⟨rest, rfl, rfl⟩ := rawDisguised?_eq_some disguised
      cases rest with
      | nil => cases valid
      | cons next later => rfl

/-! ## Whole documents -/

mutual

/-- **A document is decoded exactly if nothing in it keeps decoding from going on.** -/
theorem trouble?_eq_none_iff : ∀ (raw : Document.Raw) (limit : Nat),
    trouble? raw limit = none ↔
      raw.depth ≤ limit ∧ ∃ value, raw.validate.bind ofDocument? = some value
  | .null, limit => ⟨fun _ => ⟨Nat.zero_le limit, _, rfl⟩, fun _ => rfl⟩
  | .bool _, limit => ⟨fun _ => ⟨Nat.zero_le limit, _, rfl⟩, fun _ => rfl⟩
  | .string (some _), limit => ⟨fun _ => ⟨Nat.zero_le limit, _, rfl⟩, fun _ => rfl⟩
  | .string none, limit => ⟨nofun, fun ⟨_, _, read⟩ => by cases read⟩
  | .number literal, limit => by
      rw [trouble?, literalTrouble?_eq_none_iff, validate, Option.bind_some, ofDocument?]
      simp [Json.depth, Option.map_eq_some_iff]
  | .array raws, 0 => ⟨nofun, fun ⟨shallow, _⟩ => absurd shallow (Nat.not_succ_le_zero _)⟩
  | .array raws, limit + 1 => by
      rw [trouble?, itemsTrouble?_eq_none_iff raws limit, Json.depth, Nat.succ_le_succ_iff]
      refine and_congr_right fun _ => ?_
      rw [validate]
      cases validateItems raws with
      | none => simp
      | some documents => simp [ofDocument?]
  | .object raws, 0 => ⟨nofun, fun ⟨shallow, _⟩ => absurd shallow (Nat.not_succ_le_zero _)⟩
  | .object raws, limit + 1 => by
      cases hidden : rawDisguised? raws with
      | none =>
          rw [trouble?, hidden, decoded_object_of_plain hidden]
          dsimp only
          simp only [fieldsTrouble?_eq_none_iff raws limit, Json.depth, Nat.succ_le_succ_iff,
            ← Option.isSome_iff_exists, Option.isSome_map]
      | some found =>
          obtain ⟨literal, crowded⟩ := found
          rw [trouble?, hidden, decoded_object_of_disguised hidden]
          dsimp only
          cases crowded with
          | true => simp [ofDisguised?]
          | false =>
              have alone : Json.depth (.object raws) = 1 := by
                obtain ⟨rest, rfl, alone⟩ := rawDisguised?_eq_some hidden
                cases rest with
                | nil => rfl
                | cons next later => cases alone
              rw [alone, if_neg Bool.false_ne_true, Option.or_none, literalTrouble?_eq_none_iff]
              simp [ofDisguised?]

theorem itemsTrouble?_eq_none_iff : ∀ (raws : List Document.Raw) (limit : Nat),
    itemsTrouble? raws limit = none ↔
      Json.itemsDepth raws ≤ limit ∧ ∃ values, (validateItems raws).bind ofItems? = some values
  | [], limit => ⟨fun _ => ⟨Nat.zero_le limit, _, rfl⟩, fun _ => rfl⟩
  | raw :: rest, limit => by
      rw [itemsTrouble?, Option.or_eq_none_iff, trouble?_eq_none_iff raw limit,
        itemsTrouble?_eq_none_iff rest limit, Json.itemsDepth, Nat.max_le, decodedItems_cons]
      simp only [Option.bind_eq_some_iff, Option.map_eq_some_iff]
      grind

theorem fieldsTrouble?_eq_none_iff : ∀ (raws : List (Option String × Document.Raw)) (limit : Nat),
    fieldsTrouble? raws limit = none ↔
      Json.fieldsDepth raws ≤ limit ∧ ∃ entries, (validateFields raws).bind ofFields? = some entries
  | [], limit => ⟨fun _ => ⟨Nat.zero_le limit, _, rfl⟩, fun _ => rfl⟩
  | (none, _) :: _, limit => ⟨nofun, fun ⟨_, _, read⟩ => by cases read⟩
  | (some key, raw) :: rest, limit => by
      rw [fieldsTrouble?, Option.or_eq_none_iff, trouble?_eq_none_iff raw limit,
        fieldsTrouble?_eq_none_iff rest limit, Json.fieldsDepth, Nat.max_le, decodedFields_cons]
      simp only [Option.bind_eq_some_iff, Option.map_eq_some_iff]
      grind

end

/-! ## Decoding -/

variable {bytes : List UInt8}

theorem trouble?_eq_none_of_decode {raw : Document.Raw} {value : Value}
    (read : Document.ofBytes? bytes = some raw) (decoded : decode bytes = .ok value) :
    trouble? raw maxDepth = none := by
  obtain ⟨raw', document, read', shallow, valid, known⟩ := decode_eq_ok_iff.mp decoded
  obtain rfl := Option.some.inj (read.symm.trans read')
  refine (trouble?_eq_none_iff raw maxDepth).mpr ⟨shallow, value, ?_⟩
  rw [valid, Option.bind_some, known]

/-- **The program ends exactly over the shift of a literal that decoding meets first.** -/
theorem decode_eq_shiftOverflow_iff :
    decode bytes = .error .shiftOverflow ↔ overflows bytes = true := by
  constructor
  · intro failed
    unfold decode at failed
    split at failed
    · cases failed
    · by_contra kept
      rw [if_neg kept] at failed
      cases failed
  · intro beyond
    cases decoded : decode bytes with
    | ok value =>
        obtain ⟨raw, _, read, _⟩ := decode_eq_ok_iff.mp decoded
        have none := trouble?_eq_none_of_decode read decoded
        rw [overflows, Document.beginning_of_ofBytes? read, none] at beyond
        cases beyond
    | error error =>
        unfold decode at decoded
        split at decoded
        · cases decoded
        · rw [if_pos beyond] at decoded
          exact decoded.symm

/-- For the text of a document, it depends on this document only. -/
theorem decode_eq_shiftOverflow_iff_of_ofBytes? {raw : Document.Raw}
    (read : Document.ofBytes? bytes = some raw) :
    decode bytes = .error .shiftOverflow ↔ trouble? raw maxDepth = some .shiftOverflow := by
  rw [decode_eq_shiftOverflow_iff, overflows, Document.beginning_of_ofBytes? read, beq_iff_eq]

end Value

end Rego
