import Mathlib.Data.List.Basic
import Rego.Proofs.Text.Case
import Rego.Uuid

/-!
# Forms and bits of identifiers

An identifier is written as its digits alone, with hyphens between the groups of digits, with braces
around these, or after `urn:uuid:` (`Form.write`). Whatever the letter case, the digits are found
between the hyphens (`exists_joinGroups?`) and what surrounds them is taken away (`unwrap_recased`),
so every form is read as the identifier (`read?_recased`).

An identifier made of random bytes has six bits of its own, those of the version and the variant,
and keeps all others (`ofRandom_agrees`). So two of them have the same text exactly if the bytes
that were drawn agree on all other bits (`text_ofRandom_eq_iff`).
-/

namespace Rego.Uuid

set_option autoImplicit false

open Text (Recased lowerBasic)

/-! ## Digits -/

/-- The characters that digits are written with. -/
def digitSymbols : List Char := "0123456789abcdef".toList

theorem digitChar_mem : ∀ digit < 16, Radix.digitChar digit ∈ digitSymbols := by decide

/-- A character is read as the digit whose symbol it is, in either case. -/
theorem digit?_of_recased {digit : Nat} (below : digit < 16) {character : Char}
    (same : lowerBasic character = lowerBasic (Radix.digitChar digit)) :
    digit? character = some digit := by
  have narrow : ∀ digit < 16, (Radix.digitChar digit).toNat < 0x80 := by decide
  have ascii := Text.toNat_lt_of_lowerBasic (narrow digit below) same
  have read : ∀ code < 0x80, ∀ digit < 16,
      lowerBasic (Char.ofNat code) = lowerBasic (Radix.digitChar digit) →
        digit? (Char.ofNat code) = some digit := by
    decide +kernel
  have known := read _ ascii digit below
  rw [Char.ofNat_toNat] at known
  exact known same

/-- Bytes are read from their digits, in any letter case. -/
theorem ofDigits?_recased {bytes : List UInt8} {digits : List Char}
    (same : Recased digits (bytes.flatMap byteText)) : ofDigits? digits = some bytes := by
  induction bytes generalizing digits with
  | nil =>
      obtain rfl := List.eq_nil_of_length_eq_zero same.length_eq
      rfl
  | cons byte rest ih =>
      obtain ⟨high, _, rfl, one, same⟩ := Recased.exists_cons same
      obtain ⟨low, _, rfl, two, same⟩ := Recased.exists_cons same
      have range := byte.toNat_lt
      have whole : UInt8.ofNat (byte.toNat / 16 * 16 + byte.toNat % 16) = byte := by
        rw [Nat.div_add_mod' byte.toNat 16, UInt8.ofNat_toNat]
      rw [ofDigits?, digit?_of_recased (by omega) one,
        digit?_of_recased (Nat.mod_lt _ (by decide)) two, ih same]
      exact congrArg (fun byte => some (byte :: rest)) whole

theorem length_digits (bytes : List UInt8) :
    (bytes.flatMap byteText).length = bytes.length * 2 := by
  induction bytes with
  | nil => rfl
  | cons byte rest ih =>
      rw [List.flatMap_cons, List.length_append, ih, List.length_cons, Nat.succ_mul]
      exact Nat.add_comm 2 _

theorem digits_mem (bytes : List UInt8) :
    ∀ character ∈ bytes.flatMap byteText, character ∈ digitSymbols := by
  intro character member
  obtain ⟨byte, _, within⟩ := List.mem_flatMap.mp member
  have range := byte.toNat_lt
  simp only [byteText, List.mem_cons, List.not_mem_nil, or_false] at within
  rcases within with rfl | rfl
  · exact digitChar_mem _ (by omega)
  · exact digitChar_mem _ (Nat.mod_lt _ (by decide))

/-! ## Groups -/

/-- The groups of bytes whose digits stand between hyphens. -/
def groups (bytes : List UInt8) : List (List UInt8) :=
  [bytes.take 4, (bytes.drop 4).take 2, (bytes.drop 6).take 2, (bytes.drop 8).take 2,
    bytes.drop 10]

theorem text_eq_intercalate (bytes : List UInt8) :
    text bytes = ['-'].intercalate ((groups bytes).map fun group => group.flatMap byteText) := by
  simp only [text, groups, List.map_cons, List.map_nil, List.intercalate_cons_cons,
    List.intercalate_singleton, List.append_assoc, List.singleton_append]

theorem flatten_groups (bytes : List UInt8) : (groups bytes).flatten = bytes := by
  have next : ∀ first count : Nat,
      (bytes.drop first).take count ++ bytes.drop (first + count) = bytes.drop first :=
    fun first count => by rw [← List.drop_drop, List.take_append_drop]
  simp only [groups, List.flatten_cons, List.flatten_nil, List.append_nil]
  rw [next 8 2, next 6 2, next 4 2, List.take_append_drop]

theorem lengths_groups {bytes : List UInt8} (whole : bytes.length = 16) :
    (groups bytes).map (fun group => group.length * 2) = [8, 4, 4, 4, 12] := by
  simp [groups, whole]

theorem joinGroups?_append {length next : Nat} {lengths : List Nat} {group rest : List Char}
    (size : group.length = length) :
    joinGroups? (length :: next :: lengths) (group ++ '-' :: rest) =
      (joinGroups? (next :: lengths) rest).map (group ++ ·) := by
  subst size
  simp only [joinGroups?, List.drop_left, List.take_left]

/-- **The digits of groups are found between the hyphens, in any letter case.** -/
theorem exists_joinGroups? {parts : List (List UInt8)} (some : parts ≠ []) {written : List Char}
    (same : Recased written (['-'].intercalate (parts.map fun group => group.flatMap byteText))) :
    ∃ digits, joinGroups? (parts.map fun group => group.length * 2) written = .some digits ∧
      Recased digits (parts.flatten.flatMap byteText) := by
  induction parts generalizing written with
  | nil => exact absurd rfl some
  | cons group rest ih =>
      cases rest with
      | nil =>
          rw [List.map_singleton, List.intercalate_singleton] at same
          refine ⟨written, if_pos ?_, ?_⟩
          · rw [same.length_eq, length_digits]
          · rwa [List.flatten_singleton]
      | cons next rest =>
          rw [List.map_cons, List.map_cons, List.intercalate_cons_cons, List.append_assoc,
            List.singleton_append, ← List.map_cons] at same
          obtain ⟨front, _, rfl, here, others⟩ := same.exists_append
          obtain ⟨hyphen, back, rfl, one, behind⟩ := others.exists_cons
          obtain rfl := Text.eq_of_lowerBasic (.inl (by decide)) one
          obtain ⟨digits, found, later⟩ := ih (List.cons_ne_nil _ _) behind
          refine ⟨front ++ digits, ?_, ?_⟩
          · rw [List.map_cons] at found
            rw [List.map_cons, List.map_cons, joinGroups?_append
              (here.length_eq.trans (length_digits group)), found]
            rfl
          · rw [List.flatten_cons, List.flatMap_append]
            exact here.append later

/-! ## Forms -/

/-- The ways to write an identifier. -/
inductive Form where
  | plain
  | hyphenated
  | braced
  | urn
deriving DecidableEq

/-- An identifier in one of its forms, in lower case. -/
def Form.write (bytes : List UInt8) : Form → List Char
  | plain => bytes.flatMap byteText
  | hyphenated => text bytes
  | braced => '\x7b' :: (text bytes ++ ['\x7d'])
  | urn => "urn:uuid:".toList ++ text bytes

/-- The text of an identifier is its digits in lower case, eight, four, four, four and twelve of
them with hyphens between. -/
structure Hyphenated (written : List Char) (parts : List (List Char)) : Prop where
  joined : written = ['-'].intercalate parts
  sizes : parts.map List.length = [8, 4, 4, 4, 12]
  digits : ∀ part ∈ parts, ∀ character ∈ part, character ∈ digitSymbols

variable {bytes : List UInt8}

theorem unwrap_braced {written : List Char} (same : Recased written (Form.braced.write bytes)) :
    Recased (unwrap written) (text bytes) := by
  obtain ⟨left, _, rfl, one, others⟩ := same.exists_cons
  obtain ⟨inner, _, rfl, inside, closing⟩ := others.exists_append
  obtain ⟨right, rest, rfl, two, ended⟩ := closing.exists_cons
  obtain rfl := List.eq_nil_of_length_eq_zero ended.length_eq
  obtain rfl := Text.eq_of_lowerBasic (.inr (by decide)) one
  obtain rfl := Text.eq_of_lowerBasic (.inr (by decide)) two
  have braces : ('\x7b' :: (inner ++ ['\x7d'])).head? = some '\x7b' ∧
      ('\x7b' :: (inner ++ ['\x7d'])).getLast? = some '\x7d' := by
    rw [← List.cons_append, List.getLast?_concat]
    exact ⟨rfl, rfl⟩
  rw [unwrap, if_pos braces, List.drop_one, List.tail_cons, List.dropLast_concat]
  exact inside

theorem unwrap_urn {written : List Char} (same : Recased written (Form.urn.write bytes)) :
    Recased (unwrap written) (text bytes) := by
  obtain ⟨words, inner, rfl, leading, inside⟩ := same.exists_append
  have size : words.length = 9 := leading.length_eq
  have unbraced : ¬((words ++ inner).head? = some '\x7b' ∧
      (words ++ inner).getLast? = some '\x7d') := by
    rintro ⟨opened, _⟩
    obtain ⟨first, others, rfl, lowered, _⟩ := leading.exists_cons
    obtain rfl := Option.some.inj opened
    exact absurd lowered (by decide)
  have named : ((words ++ inner).take 9).map lowerBasic = "urn:uuid:".toList := by
    rw [List.take_left' size]
    exact leading.trans (by decide)
  rw [unwrap, if_neg unbraced, if_pos named, List.drop_left' size]
  exact inside

section Written

variable (whole : bytes.length = 16)

include whole

theorem hyphenated_text :
    Hyphenated (text bytes) ((groups bytes).map fun group => group.flatMap byteText) where
  joined := text_eq_intercalate bytes
  sizes := by
    rw [List.map_map, ← lengths_groups whole]
    exact List.map_congr_left fun group _ => length_digits group
  digits part member := by
    obtain ⟨group, _, rfl⟩ := List.mem_map.mp member
    exact digits_mem group

theorem length_text : (text bytes).length = 36 := by
  have sizes := (hyphenated_text whole).sizes
  simp only [groups, List.map_cons, List.map_nil, List.cons.injEq, and_true] at sizes
  obtain ⟨one, two, three, four, five⟩ := sizes
  simp only [text, List.length_append, List.length_cons, one, two, three, four, five]

theorem length_write (form : Form) : (form.write bytes).length =
    match form with | .plain => 32 | .hyphenated => 36 | .braced => 38 | .urn => 45 := by
  have size := length_text whole
  cases form with
  | plain => exact (length_digits bytes).trans (by rw [whole])
  | hyphenated => exact size
  | braced => exact (congrArg (· + 1) (List.length_append)).trans (by rw [size]; rfl)
  | urn => exact List.length_append.trans (by rw [size]; rfl)

/-- The text of an identifier starts with a digit. -/
theorem exists_text_eq_cons :
    ∃ digit rest, digit < 16 ∧ text bytes = Radix.digitChar digit :: rest := by
  obtain ⟨first, others, rfl⟩ := List.exists_cons_of_length_eq_add_one whole
  exact ⟨_, _, by have := first.toNat_lt; omega, rfl⟩

variable {written : List Char}

theorem unwrap_hyphenated (same : Recased written (text bytes)) : unwrap written = written := by
  obtain ⟨digit, rest, below, starts⟩ := exists_text_eq_cons whole
  rw [starts] at same
  obtain ⟨first, others, rfl, lowered, _⟩ := same.exists_cons
  have other : ∀ digit < 16, lowerBasic (Radix.digitChar digit) ≠ lowerBasic '\x7b' ∧
      lowerBasic (Radix.digitChar digit) ≠ 'u' := by
    decide
  rw [unwrap, if_neg, if_neg]
  · intro words
    have letter : lowerBasic first = 'u' := List.head_eq_of_cons_eq words
    exact (other digit below).2 (lowered.symm.trans letter)
  · rintro ⟨opened, _⟩
    obtain rfl := Option.some.inj opened
    exact (other digit below).1 lowered.symm

/-- **Every form is read as the identifier, in any letter case.** -/
theorem read?_recased {form : Form} (same : Recased written (form.write bytes)) :
    read? written = some bytes := by
  have grouped : ∀ inner : List Char, Recased inner (text bytes) →
      (joinGroups? [8, 4, 4, 4, 12] inner).bind ofDigits? = some bytes := by
    intro inner inside
    rw [text_eq_intercalate] at inside
    obtain ⟨digits, found, spelled⟩ :=
      @exists_joinGroups? (groups bytes) (List.cons_ne_nil _ _) inner inside
    rw [lengths_groups whole] at found
    rw [flatten_groups] at spelled
    rw [found]
    exact ofDigits?_recased spelled
  have size := same.length_eq.trans (length_write whole form)
  unfold read?
  cases form with
  | plain =>
      rw [if_pos size]
      exact ofDigits?_recased same
  | hyphenated =>
      rw [if_neg (by rw [size]; decide), unwrap_hyphenated whole same]
      exact grouped written same
  | braced =>
      rw [if_neg (by rw [size]; decide)]
      exact grouped _ (unwrap_braced same)
  | urn =>
      rw [if_neg (by rw [size]; decide)]
      exact grouped _ (unwrap_urn same)

end Written

/-! ## Bits -/

/-- The bits of each byte that are as they were drawn: all but four of the version and two of the
variant. -/
def drawnBits (index : Nat) : UInt8 := if index = 6 then 0x0F else if index = 8 then 0x3F else 0xFF

/-- The bits that identifiers have of their own: version four, and the variant. -/
def ownBits (index : Nat) : UInt8 := if index = 6 then 0x40 else if index = 8 then 0x80 else 0

theorem forall_byte {property : UInt8 → Prop}
    (all : ∀ code < 256, property (UInt8.ofNat code)) (byte : UInt8) : property byte := by
  have here := all byte.toNat byte.toNat_lt
  rwa [UInt8.ofNat_toNat] at here

theorem and_or_own (index : Nat) (byte : UInt8) :
    (byte &&& drawnBits index ||| ownBits index) &&& drawnBits index =
      byte &&& drawnBits index := by
  have six : ∀ byte : UInt8, (byte &&& 0x0F ||| 0x40) &&& 0x0F = byte &&& 0x0F :=
    forall_byte (by decide +kernel)
  have eight : ∀ byte : UInt8, (byte &&& 0x3F ||| 0x80) &&& 0x3F = byte &&& 0x3F :=
    forall_byte (by decide +kernel)
  have other : ∀ byte : UInt8, (byte &&& 0xFF ||| 0) &&& 0xFF = byte &&& 0xFF :=
    forall_byte (by decide +kernel)
  unfold drawnBits ownBits
  split
  · exact six byte
  · split
    · exact eight byte
    · exact other byte

theorem length_ofRandom (bytes : List UInt8) : (ofRandom bytes).length = bytes.length := by
  rw [ofRandom, List.length_modify, List.length_modify]

/-- An identifier has its own bits and all others as they were drawn. -/
theorem getD_ofRandom {index : Nat} (inside : index < bytes.length) :
    (ofRandom bytes).getD index 0 = bytes.getD index 0 &&& drawnBits index ||| ownBits index := by
  have whole : ∀ byte : UInt8, byte &&& 0xFF ||| 0 = byte := forall_byte (by decide +kernel)
  simp only [List.getD_eq_getElem?_getD, ofRandom, List.getElem?_modify,
    List.getElem?_eq_getElem inside, Option.map_eq_map, Option.map_some, Option.getD_some]
  unfold drawnBits ownBits
  by_cases six : index = 6
  · subst six
    rfl
  · by_cases eight : index = 8
    · subst eight
      rfl
    · rw [if_neg (Ne.symm six), if_neg (Ne.symm eight), if_neg six, if_neg eight, if_neg six,
        if_neg eight, whole]

/-- **An identifier agrees with the drawn bytes on all bits but its own.** -/
theorem ofRandom_agrees (bytes : List UInt8) (index : Nat) :
    (ofRandom bytes).getD index 0 &&& drawnBits index = bytes.getD index 0 &&& drawnBits index := by
  by_cases inside : index < bytes.length
  · rw [getD_ofRandom inside, and_or_own]
  · have beyond := Nat.le_of_not_lt inside
    have beyond' : (ofRandom bytes).length ≤ index := (length_ofRandom bytes).symm ▸ beyond
    simp only [List.getD_eq_getElem?_getD, List.getElem?_eq_none beyond,
      List.getElem?_eq_none beyond']

/-- **Bytes that differ in another bit give another text.** -/
theorem text_ofRandom_eq_iff {one two : List UInt8} (size : one.length = 16)
    (size' : two.length = 16) : text (ofRandom one) = text (ofRandom two) ↔
      ∀ index, one.getD index 0 &&& drawnBits index = two.getD index 0 &&& drawnBits index := by
  constructor
  · intro same index
    have read : ∀ {bytes : List UInt8}, bytes.length = 16 →
        read? (text (ofRandom bytes)) = some (ofRandom bytes) := fun size =>
      @read?_recased _ ((length_ofRandom _).trans size) _ .hyphenated (Recased.refl _)
    have equal : ofRandom one = ofRandom two :=
      Option.some.inj ((read size).symm.trans (same ▸ read size'))
    rw [← ofRandom_agrees one, ← ofRandom_agrees two, equal]
  · intro agree
    refine congrArg text (List.ext_getElem ?_ fun index inside inside' => ?_)
    · rw [length_ofRandom, length_ofRandom, size, size']
    · rw [List.getElem_eq_getD 0, List.getElem_eq_getD 0,
        getD_ofRandom (length_ofRandom one ▸ inside), getD_ofRandom (length_ofRandom two ▸ inside'),
        agree]

/-! ## Parts -/

theorem version_ofRandom (whole : bytes.length = 16) : version (ofRandom bytes) = 4 := by
  have four : ∀ byte : UInt8, (byte &&& 0x0F ||| 0x40).toNat / 16 = 4 :=
    forall_byte (by decide +kernel)
  rw [version, byteAt, getD_ofRandom (by omega)]
  exact four _

theorem variant_ofRandom (whole : bytes.length = 16) : variant (ofRandom bytes) = "RFC4122" := by
  have range : ∀ byte : UInt8, 128 ≤ (byte &&& 0x3F ||| 0x80).toNat ∧
      (byte &&& 0x3F ||| 0x80).toNat < 192 := forall_byte (by decide +kernel)
  obtain ⟨least, most⟩ := range (bytes.getD 8 0)
  have byte : byteAt (ofRandom bytes) 8 = (bytes.getD 8 0 &&& 0x3F ||| 0x80).toNat := by
    rw [byteAt, getD_ofRandom (by omega)]
    rfl
  rw [variant, byte, if_neg (by omega), if_pos most]

/-- The versions that tell a time. -/
theorem isSome_nanoseconds?_iff (bytes : List UInt8) :
    (nanoseconds? bytes).isSome ↔ version bytes ∈ [1, 2, 6, 7] := by
  rw [nanoseconds?, Option.isSome_map, time?]
  split
  · next known => simp [known]
  · next known => simp [known]
  · next known => simp [known]
  · next known => simp [known]
  · next one two six seven => exact iff_of_false nofun (by simpa using ⟨one, two, six, seven⟩)

end Rego.Uuid
