import Rego.Proofs.Builtin.Overtaxing
import Rego.Proofs.Value.Fields

/-!
# Builtins on texts are sound

The builtins on strings, on kinds of values and on encoded bytes give values of their declared types
or fail in the ordinary way, unless they are applied to what overtaxes them. Most read one or two
strings and compute from their characters or bytes, and then it is enough to look at what is
computed (`Strings.returns_onText`, `Encodings.yields_bytes`). A description of an identifier is an
object with string keys, whichever of its fields are present (`Encodings.allows_describe`).
-/

namespace Rego.Builtin

set_option autoImplicit false

open Argument

/-! ## Strings -/

namespace Strings

variable {type : Ty} (name : String)

theorem yields_characters (argument : Value) :
    Yields (fun characters => ∃ whole, argument = .string whole ∧ characters = whole.toList)
      (characters name argument) := by
  refine (yields_string name argument).bind fun whole read => ?_
  exact ⟨whole, read, rfl⟩

theorem returns_onText {compute : List Char → Value}
    (typed : ∀ whole, type.admits (compute whole) = true) (argument : Value) :
    Returns type (onText compute name argument) := by
  refine (yields_characters name argument).bind fun whole _ => ?_
  exact .inr (typed whole)

theorem returns_onTexts {compute : List Char → List Char → Value}
    (typed : ∀ first second, type.admits (compute first second) = true) (first second : Value) :
    Returns type (onTexts compute name first second) := by
  refine (yields_characters name first).bind fun firstWhole _ => ?_
  refine (yields_characters name second).bind fun secondWhole _ => ?_
  exact .inr (typed firstWhole secondWhole)

theorem returns_concat (delimiter collection : Value) :
    Returns .string (concat name delimiter collection) := by
  refine (yields_string name delimiter).bind fun between _ => ?_
  refine (yields_strings name collection).bind fun texts _ => ?_
  exact .inr rfl

theorem admits_split (whole delimiter : List Char) :
    (Ty.array [] (some .string)).admits (split whole delimiter) = true := by
  rw [split, Ty.admits_arrayOf, List.all_map]
  exact List.all_eq_true.mpr fun part _ => rfl

theorem returns_replace (whole piece replacement : Value) :
    Returns .string (replace name whole piece replacement) := by
  refine (yields_characters name whole).bind fun wholeText _ => ?_
  refine (yields_characters name piece).bind fun pieceText _ => ?_
  refine (yields_characters name replacement).bind fun replacementText _ => ?_
  exact .inr rfl

theorem returns_search {compute : List Char → List Char → Value}
    (typed : ∀ first second, type.admits (compute first second) = true) (whole piece : Value) :
    Returns type (search compute name whole piece) := by
  refine (yields_characters name whole).bind fun wholeText _ => ?_
  refine (yields_characters name piece).bind fun pieceText _ => ?_
  split
  · exact .failed _ _
  · exact .inr (typed _ _)

theorem admits_firstPosition (whole piece : List Char) :
    Ty.number.admits (firstPosition whole piece) = true := by
  unfold firstPosition
  split <;> rfl

theorem admits_allPositions (whole piece : List Char) :
    (Ty.array [] (some .number)).admits (allPositions whole piece) = true := by
  rw [allPositions, Ty.admits_arrayOf, List.all_map]
  exact List.all_eq_true.mpr fun position _ => rfl

theorem returns_substring (whole offset length : Value) :
    Returns .string (substring name whole offset length) := by
  refine (yields_characters name whole).bind fun wholeText _ => ?_
  refine (yields_integer name offset).bind fun first _ => ?_
  refine (yields_integer name length).bind fun count _ => ?_
  exact .inr rfl

theorem returns_formatInt (number base : Value) :
    Returns .string (formatInt name number base) := by
  refine (yields_number name number).bind fun written _ => ?_
  refine (yields_integer name base).bind fun radix _ => ?_
  split
  · split
    · exact .inr rfl
    · exact .failed _ _
  · exact .failed _ _

theorem returns_sprintf (format arguments : Value) :
    Returns .string (sprintf name format arguments) ∨
      ∃ cause, Registry.Overtaxes "sprintf" [format, arguments] cause ∧
        sprintf name format arguments = aborted name cause := by
  cases format with
  | string format =>
      cases arguments with
      | array arguments =>
          cases beyond : Format.excess? format.toList arguments with
          | none =>
              rw [sprintf_of_no_excess beyond]
              exact .inl (.inr rfl)
          | some excess => exact .inr ⟨_, .format beyond, sprintf_of_excess beyond name⟩
      | _ => exact .inl (.failed _ _)
  | _ => exact .inl (.failed _ _)

theorem yields_partText (part : Value) : Yields (fun _ => True) (partText name part) := by
  unfold partText
  split
  case h_3 => exact .failed _ _
  all_goals exact trivial

theorem returns_template (parts : Value) : Returns .string (template name parts) := by
  refine (yields_array name parts).bind fun items _ => ?_
  refine (Yields.mapM (yields_partText name) items).bind fun texts _ => ?_
  exact .inr rfl

/-- **The builtins on strings are sound, unless they are overtaxed.** -/
theorem sound_of_mem_builtins :
    ∀ builtin ∈ builtins, builtin.SoundUnless (Registry.Overtaxes builtin.metadata.name) := by
  simp only [builtins, List.forall_mem_cons]
  exact ⟨sound_binary ⟨rfl, rfl, rfl⟩ fun _ _ => returns_concat _ _ _,
    sound_binary ⟨rfl, rfl, rfl⟩ fun _ _ => returns_onTexts _ admits_split _ _,
    sound_ternary ⟨rfl, rfl, rfl⟩ fun _ _ _ => returns_replace _ _ _ _,
    sound_binary ⟨rfl, rfl, rfl⟩ fun _ _ => returns_onTexts _ (fun _ _ => rfl) _ _,
    sound_binary ⟨rfl, rfl, rfl⟩ fun _ _ => returns_onTexts _ (fun _ _ => rfl) _ _,
    sound_binary ⟨rfl, rfl, rfl⟩ fun _ _ => returns_onTexts _ (fun _ _ => rfl) _ _,
    sound_binary ⟨rfl, rfl, rfl⟩ fun _ _ => returns_onTexts _ (fun _ _ => rfl) _ _,
    sound_binary ⟨rfl, rfl, rfl⟩ fun _ _ => returns_search _ admits_firstPosition _ _,
    sound_binary ⟨rfl, rfl, rfl⟩ fun _ _ => returns_search _ admits_allPositions _ _,
    sound_ternary ⟨rfl, rfl, rfl⟩ fun _ _ _ => returns_substring _ _ _ _,
    sound_unary ⟨rfl, rfl, rfl⟩ fun _ => returns_onText _ (fun _ => rfl) _,
    sound_unary ⟨rfl, rfl, rfl⟩ fun _ => returns_onText _ (fun _ => rfl) _,
    sound_unary ⟨rfl, rfl, rfl⟩ fun _ => returns_onText _ (fun _ => rfl) _,
    sound_binary ⟨rfl, rfl, rfl⟩ fun _ _ => returns_onTexts _ (fun _ _ => rfl) _ _,
    sound_binary ⟨rfl, rfl, rfl⟩ fun _ _ => returns_onTexts _ (fun _ _ => rfl) _ _,
    sound_binary ⟨rfl, rfl, rfl⟩ fun _ _ => returns_onTexts _ (fun _ _ => rfl) _ _,
    sound_binary ⟨rfl, rfl, rfl⟩ fun _ _ => returns_onTexts _ (fun _ _ => rfl) _ _,
    sound_binary ⟨rfl, rfl, rfl⟩ fun _ _ => returns_onTexts _ (fun _ _ => rfl) _ _,
    sound_unary ⟨rfl, rfl, rfl⟩ fun _ => returns_onText _ (fun _ => rfl) _,
    sound_binary ⟨rfl, rfl, rfl⟩ fun _ _ => returns_formatInt _ _ _,
    soundUnless_binary ⟨rfl, rfl, rfl⟩ fun _ _ => returns_sprintf _ _ _,
    sound_unary ⟨rfl, rfl, rfl⟩ fun _ => returns_template _ _,
    fun _ member => absurd member List.not_mem_nil⟩

end Strings

/-! ## Kinds of values -/

namespace Conversions

theorem returns_toNumber (name : String) (argument : Value) :
    Returns .number (toNumber name argument) ∨
      ∃ cause, Registry.Overtaxes "to_number" [argument] cause ∧
        toNumber name argument = aborted name cause := by
  cases argument with
  | string text =>
      rw [toNumber, numberOfText]
      split
      · exact .inl (.inr rfl)
      · next beyond => exact .inr ⟨_, .conversion beyond, rfl⟩
      · exact .inl (.failed _ _)
  | bool value => cases value <;> exact .inl (.inr rfl)
  | null => exact .inl (.inr rfl)
  | number number => exact .inl (.inr rfl)
  | _ => exact .inl (.failed _ _)

theorem returns_amount {read : List Char → Except QuantityError Number} {name : String}
    (overtaxes : ∀ {text : String}, read text.toList = .error .shiftOverflow →
      Registry.Overtaxes name [.string text] .shiftOverflow) (argument : Value) :
    Returns .number (amount read name argument) ∨
      ∃ cause, Registry.Overtaxes name [argument] cause ∧
        amount read name argument = aborted name cause := by
  cases argument with
  | string text =>
      by_cases beyond : read text.toList = .error .shiftOverflow
      · exact .inr ⟨_, overtaxes beyond, amount_of_shiftOverflow beyond name⟩
      · refine .inl ((yields_string name (.string text)).bind ?_)
        rintro _ same
        obtain rfl := Value.string.inj same
        split
        · exact .inr rfl
        · next over' => exact absurd over' beyond
        · exact .failed _ _
  | _ => exact .inl (.failed _ _)

/-- **The builtins on kinds of values are sound, unless they are overtaxed.** -/
theorem sound_of_mem_builtins :
    ∀ builtin ∈ builtins, builtin.SoundUnless (Registry.Overtaxes builtin.metadata.name) := by
  simp only [builtins, List.forall_mem_cons]
  exact ⟨soundUnless_unary ⟨rfl, rfl, rfl⟩ fun _ => returns_toNumber _ _,
    sound_unary ⟨rfl, rfl, rfl⟩ fun _ => .inr rfl,
    sound_unary ⟨rfl, rfl, rfl⟩ fun _ => .inr rfl,
    sound_unary ⟨rfl, rfl, rfl⟩ fun _ => .inr rfl,
    sound_unary ⟨rfl, rfl, rfl⟩ fun _ => .inr rfl,
    sound_unary ⟨rfl, rfl, rfl⟩ fun _ => .inr rfl,
    sound_unary ⟨rfl, rfl, rfl⟩ fun _ => .inr rfl,
    sound_unary ⟨rfl, rfl, rfl⟩ fun _ => .inr rfl,
    sound_unary ⟨rfl, rfl, rfl⟩ fun _ => .inr rfl,
    soundUnless_unary ⟨rfl, rfl, rfl⟩ (returns_amount fun beyond =>
      .amount (Quantity.amount_eq_shiftOverflow_iff.mp beyond)),
    soundUnless_unary ⟨rfl, rfl, rfl⟩ (returns_amount fun beyond =>
      .bytes (Quantity.bytes_eq_shiftOverflow_iff.mp beyond)),
    fun _ member => absurd member List.not_mem_nil⟩

end Conversions

/-! ## Encoded bytes -/

namespace Encodings

variable (name : String)

theorem yields_bytes (argument : Value) :
    Yields (fun bytes => ∃ text, argument = .string text ∧ bytes = Text.bytes text)
      (bytes name argument) := by
  refine (yields_string name argument).bind fun text read => ?_
  exact ⟨text, read, rfl⟩

theorem returns_encode (write : List UInt8 → List Char) (argument : Value) :
    Returns .string (encode write name argument) := by
  refine (yields_bytes name argument).bind fun bytes _ => ?_
  exact .inr rfl

theorem returns_decode (encoding : String)
    (read : List UInt8 → Except Encoding.DecodeError (List UInt8)) (argument : Value) :
    Returns .string (decode encoding read name argument) := by
  refine (yields_bytes name argument).bind fun bytes _ => ?_
  split
  · exact .inr rfl
  · exact .failed _ _

theorem returns_isEncoded (read : List UInt8 → Except Encoding.DecodeError (List UInt8))
    (argument : Value) : Returns .boolean (isEncoded read name argument) := by
  refine (yields_bytes name argument).bind fun bytes _ => ?_
  exact .inr rfl

theorem returns_digest (compute : List UInt8 → List UInt8) (argument : Value) :
    Returns .string (digest compute name argument) := by
  refine (yields_bytes name argument).bind fun bytes _ => ?_
  exact .inr rfl

theorem returns_keyedDigest (compute : List UInt8 → List UInt8) (blockSize : Nat)
    (message key : Value) : Returns .string (keyedDigest compute blockSize name message key) := by
  refine (yields_bytes name message).bind fun messageBytes _ => ?_
  refine (yields_bytes name key).bind fun keyBytes _ => ?_
  exact .inr rfl

theorem returns_same (left right : Value) : Returns .boolean (same name left right) := by
  refine (yields_string name left).bind fun leftText _ => ?_
  refine (yields_string name right).bind fun rightText _ => ?_
  exact .inr rfl

/-- A description of an identifier is an object with string keys. -/
theorem allows_describe (identifier : List UInt8) :
    (Ty.object [] (some (.string, .any []))).Allows (describe identifier) := by
  refine Ty.allows_of_admits ?_
  unfold describe
  rw [Ty.admits, Ty.admitsProperties, Bool.true_and, Ty.admitsFurtherFields]
  refine List.all_eq_true.mpr fun field member => ?_
  have named : Ty.string.admits field.1 = true := by
    exact @Fields.forall_key_ofList (fun key => Ty.string.admits key = true) _
      (List.forall_mem_map.mpr fun entry _ => rfl) field (List.mem_filter.mp member).1
  rw [named, Ty.admits_any, Bool.and_self]

theorem returns_parseIdentifier (argument : Value) :
    Returns (.object [] (some (.string, .any []))) (parseIdentifier name argument) := by
  refine (yields_string name argument).bind fun text _ => ?_
  split
  · exact allows_describe _
  · exact .inl rfl

/-- **The builtins on encoded bytes are sound.** -/
theorem sound_of_mem_builtins : ∀ builtin ∈ builtins, builtin.Sound := by
  simp only [builtins, List.forall_mem_cons]
  exact ⟨sound_unary ⟨rfl, rfl, rfl⟩ fun _ => returns_encode _ _ _,
    sound_unary ⟨rfl, rfl, rfl⟩ fun _ => returns_decode _ _ _ _,
    sound_unary ⟨rfl, rfl, rfl⟩ fun _ => returns_isEncoded _ _ _,
    sound_unary ⟨rfl, rfl, rfl⟩ fun _ => returns_encode _ _ _,
    sound_unary ⟨rfl, rfl, rfl⟩ fun _ => returns_encode _ _ _,
    sound_unary ⟨rfl, rfl, rfl⟩ fun _ => returns_decode _ _ _ _,
    sound_unary ⟨rfl, rfl, rfl⟩ fun _ => returns_encode _ _ _,
    sound_unary ⟨rfl, rfl, rfl⟩ fun _ => returns_decode _ _ _ _,
    sound_unary ⟨rfl, rfl, rfl⟩ fun _ => returns_digest _ _ _,
    sound_unary ⟨rfl, rfl, rfl⟩ fun _ => returns_digest _ _ _,
    sound_unary ⟨rfl, rfl, rfl⟩ fun _ => returns_digest _ _ _,
    sound_binary ⟨rfl, rfl, rfl⟩ fun _ _ => returns_keyedDigest _ _ _ _ _,
    sound_binary ⟨rfl, rfl, rfl⟩ fun _ _ => returns_keyedDigest _ _ _ _ _,
    sound_binary ⟨rfl, rfl, rfl⟩ fun _ _ => returns_keyedDigest _ _ _ _ _,
    sound_binary ⟨rfl, rfl, rfl⟩ fun _ _ => returns_keyedDigest _ _ _ _ _,
    sound_binary ⟨rfl, rfl, rfl⟩ fun _ _ => returns_same _ _ _,
    sound_unary ⟨rfl, rfl, rfl⟩ fun _ => returns_parseIdentifier _ _,
    fun _ member => absurd member List.not_mem_nil⟩

end Encodings

end Rego.Builtin
