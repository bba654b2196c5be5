import Rego.Encoding.Symbols
import Rego.Proofs.Text.Utf8

/-!
# Alphabets

An alphabet of a base has one symbol for each digit, each of them a character of one byte
(`Alphabet`). The byte of a symbol is read as the digit that the symbol stands for
(`digitOf?_symbolByte`), and so digits come back from the bytes of their symbols
(`digitsOf_symbolBytes`).
-/

namespace Rego.Encoding

set_option autoImplicit false

/-- The symbols of the digits of a base: as many, different, and each a character of one byte. -/
structure Alphabet (symbols : List Char) (base : Nat) : Prop where
  size : symbols.length = base
  distinct : symbols.Nodup
  ascii : ∀ symbol ∈ symbols, symbol.toNat < 0x80

instance (symbols : List Char) (base : Nat) : Decidable (Alphabet symbols base) :=
  have : Decidable (∀ symbol ∈ symbols, symbol.toNat < 0x80) := List.decidableBAll _ symbols
  decidable_of_iff (symbols.length = base ∧ symbols.Nodup ∧
      ∀ symbol ∈ symbols, symbol.toNat < 0x80)
    ⟨fun ⟨size, distinct, ascii⟩ => ⟨size, distinct, ascii⟩,
      fun listed => ⟨listed.size, listed.distinct, listed.ascii⟩⟩

variable {alphabet : List Char} {base : Nat}

/-- The byte of the symbol of a digit. -/
def symbolByte (alphabet : List Char) (digit : Nat) : UInt8 :=
  UInt8.ofNat (symbolOf alphabet digit).toNat

namespace Alphabet

variable (listed : Alphabet alphabet base) {digit : Nat} (below : digit < base)

include listed below

theorem symbolOf_eq_getElem :
    ∃ inside : digit < alphabet.length, symbolOf alphabet digit = alphabet[digit] := by
  have inside : digit < alphabet.length := listed.size.symm ▸ below
  exact ⟨inside, (List.getElem_eq_getD '=').symm⟩

theorem symbolOf_mem : symbolOf alphabet digit ∈ alphabet := by
  obtain ⟨inside, same⟩ := listed.symbolOf_eq_getElem below
  rw [same]
  exact List.getElem_mem inside

/-- The byte of a symbol reads back as the symbol. -/
theorem ofUInt8_symbolByte : Char.ofUInt8 (symbolByte alphabet digit) = symbolOf alphabet digit :=
  Text.ofUInt8_ofNat (listed.ascii _ (listed.symbolOf_mem below))

/-- **The byte of a symbol is read as the digit that it stands for.** -/
theorem digitOf?_symbolByte : digitOf? alphabet (symbolByte alphabet digit) = some digit := by
  obtain ⟨inside, same⟩ := listed.symbolOf_eq_getElem below
  have place : alphabet.findIdx (fun character => character == alphabet[digit]) = digit :=
    listed.distinct.idxOf_getElem digit inside
  rw [digitOf?, listed.ofUInt8_symbolByte below, same, place]
  exact if_pos inside

end Alphabet

/-- The bytes of the symbols of digits. -/
theorem utf8_symbols (listed : Alphabet alphabet base) {digits : List Nat}
    (below : ∀ digit ∈ digits, digit < base) :
    Text.utf8 (digits.map (symbolOf alphabet)) = digits.map (symbolByte alphabet) := by
  rw [Text.utf8_of_ascii, List.map_map]
  · rfl
  · intro character member
    obtain ⟨digit, within, rfl⟩ := List.mem_map.mp member
    exact listed.ascii _ (listed.symbolOf_mem (below digit within))

/-- **Digits come back from the bytes of their symbols.** -/
theorem digitsOf_symbolBytes (listed : Alphabet alphabet base) {digits : List Nat}
    (below : ∀ digit ∈ digits, digit < base) (position : Nat) :
    digitsOf alphabet position (digits.map (symbolByte alphabet)) = .ok digits := by
  induction digits generalizing position with
  | nil => rfl
  | cons digit rest ih =>
      obtain ⟨here, later⟩ := List.forall_mem_cons.mp below
      rw [List.map_cons, digitsOf, listed.digitOf?_symbolByte here, ih later]
      rfl

/-- A character that is not in the alphabet is not read. -/
theorem digitOf?_eq_none {symbol : UInt8} (absent : Char.ofUInt8 symbol ∉ alphabet) :
    digitOf? alphabet symbol = none := by
  have last : alphabet.findIdx (fun character => character == Char.ofUInt8 symbol) =
      alphabet.length :=
    List.findIdx_eq_length_of_false fun character member =>
      beq_false_of_ne fun same => absent (same ▸ member)
  rw [digitOf?, last]
  exact if_neg (Nat.lt_irrefl _)

/-- The first symbol is read, and then the others. -/
theorem exists_of_digitsOf_cons {position : Nat} {symbol : UInt8} {symbols : List UInt8}
    {digits : List Nat} (read : digitsOf alphabet position (symbol :: symbols) = .ok digits) :
    ∃ digit others, digitOf? alphabet symbol = some digit ∧
      digitsOf alphabet (position + 1) symbols = .ok others ∧ digits = digit :: others := by
  rw [digitsOf] at read
  split at read
  · cases read
  · next digit known =>
      cases found : digitsOf alphabet (position + 1) symbols with
      | error _ => rw [found] at read; cases read
      | ok others =>
          rw [found] at read
          cases read
          exact ⟨digit, others, known, rfl, rfl⟩

/-- Symbols that are read are symbols of the alphabet, as many as there are digits. -/
theorem of_digitsOf_eq_ok {position : Nat} {symbols : List UInt8} {digits : List Nat}
    (read : digitsOf alphabet position symbols = .ok digits) :
    digits.length = symbols.length ∧ ∀ symbol ∈ symbols, Char.ofUInt8 symbol ∈ alphabet := by
  induction symbols generalizing position digits with
  | nil =>
      cases read
      exact ⟨rfl, nofun⟩
  | cons symbol rest ih =>
      obtain ⟨digit, others, known, found, rfl⟩ := exists_of_digitsOf_cons read
      obtain ⟨size, within⟩ := ih found
      have here : Char.ofUInt8 symbol ∈ alphabet := by
        refine Decidable.byContradiction fun absent => ?_
        rw [digitOf?_eq_none absent] at known
        cases known
      exact ⟨by rw [List.length_cons, List.length_cons, size],
        List.forall_mem_cons.mpr ⟨here, within⟩⟩

/-- Symbols that are read together are read in parts, one after the other. -/
theorem exists_of_digitsOf_append {position : Nat} {front back : List UInt8} {digits : List Nat}
    (read : digitsOf alphabet position (front ++ back) = .ok digits) :
    ∃ first others, digitsOf alphabet position front = .ok first ∧
      digitsOf alphabet (position + front.length) back = .ok others ∧
      digits = first ++ others := by
  induction front generalizing position digits with
  | nil => exact ⟨[], digits, rfl, read, rfl⟩
  | cons symbol rest ih =>
      obtain ⟨digit, later, known, found, rfl⟩ := exists_of_digitsOf_cons read
      obtain ⟨first, others, one, two, rfl⟩ := ih found
      refine ⟨digit :: first, others, ?_, ?_, rfl⟩
      · rw [digitsOf, known, one]
        rfl
      · rwa [List.length_cons, Nat.add_comm rest.length, ← Nat.add_assoc]

end Rego.Encoding
