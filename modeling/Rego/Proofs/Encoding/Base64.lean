import Rego.Encoding.Base64
import Rego.Proofs.Encoding.Symbols
import Rego.Proofs.Text.Blank

/-!
# Reading what base 64 writes

Bytes are written as the symbols of their groups of six bits (`encodeUnpadded_eq`), and the groups
give the bytes back, with nothing in the spare bits of the last one (`bytesOfGroups_sextets`). So
both forms are read as the bytes that were written (`decode_encode_bytes`,
`decodeUnpadded_encodeUnpadded`).

A symbol of the alphabet is no padding. A text that is read without padding is therefore read in the
same way block by block (`decodeBlocks_eq_bytesOfGroups`): a text that both decoders read is the
same bytes for both (`decode_eq_decodeUnpadded`).
-/

namespace Rego.Encoding.Base64

set_option autoImplicit false

variable {alphabet : List Char}

/-! ## Alphabets -/

theorem alphabet_standard : Alphabet standard 64 := by decide +kernel

theorem alphabet_urlSafe : Alphabet urlSafe 64 := by decide +kernel

/-- Padding is no symbol of an alphabet. -/
theorem padding_not_mem {alphabet : List Char} (known : alphabet ∈ [standard, urlSafe]) :
    '=' ∉ alphabet := by
  simp only [List.mem_cons, List.not_mem_nil, or_false] at known
  rcases known with rfl | rfl <;> decide +kernel

/-! ## Groups of six bits -/

/-- The groups of six bits of bytes, the last one filled up with zeros. -/
def sextets : List UInt8 → List Nat
  | first :: second :: third :: rest =>
    let group := (first.toNat * 256 + second.toNat) * 256 + third.toNat
    group / 262144 :: group / 4096 % 64 :: group / 64 % 64 :: group % 64 :: sextets rest
  | [first, second] =>
    let group := (first.toNat * 256 + second.toNat) * 4
    [group / 4096, group / 64 % 64, group % 64]
  | [first] => [first.toNat * 16 / 64, first.toNat * 16 % 64]
  | [] => []

theorem encodeUnpadded_eq (alphabet : List Char) (bytes : List UInt8) :
    encodeUnpadded alphabet bytes = (sextets bytes).map (symbolOf alphabet) := by
  induction bytes using sextets.induct with
  | case1 first second third rest ih =>
      rw [encodeUnpadded, sextets, ih]
      rfl
  | case2 first second => rfl
  | case3 first => rfl
  | case4 => rfl

theorem sextets_lt (bytes : List UInt8) : ∀ digit ∈ sextets bytes, digit < 64 := by
  induction bytes using sextets.induct with
  | case1 first second third rest ih =>
      have one := first.toNat_lt
      have two := second.toNat_lt
      have three := third.toNat_lt
      refine List.forall_mem_cons.mpr ⟨by omega, List.forall_mem_cons.mpr ⟨by omega,
        List.forall_mem_cons.mpr ⟨by omega, List.forall_mem_cons.mpr ⟨by omega, ih⟩⟩⟩⟩
  | case2 first second =>
      have one := first.toNat_lt
      have two := second.toNat_lt
      refine List.forall_mem_cons.mpr ⟨by omega, List.forall_mem_cons.mpr ⟨by omega,
        List.forall_mem_cons.mpr ⟨by omega, nofun⟩⟩⟩
  | case3 first =>
      have one := first.toNat_lt
      exact List.forall_mem_cons.mpr ⟨by omega, List.forall_mem_cons.mpr ⟨by omega, nofun⟩⟩
  | case4 => exact nofun

/-- The groups of bytes and the padding after them fill up blocks of four. -/
theorem length_sextets (bytes : List UInt8) :
    (sextets bytes).length + (3 - bytes.length % 3) % 3 = (bytes.length + 2) / 3 * 4 := by
  induction bytes using sextets.induct with
  | case1 first second third rest ih =>
      simp only [sextets, List.length_cons]
      omega
  | case2 first second => simp [sextets]
  | case3 first => simp [sextets]
  | case4 => rfl

/-! ## Groups back to bytes -/

theorem ofNat_eq {value : Nat} {byte : UInt8} (same : value = byte.toNat) :
    UInt8.ofNat value = byte := by
  rw [same, UInt8.ofNat_toNat]

theorem bytesOfDigits_three (last : Nat) (first second third : UInt8) :
    bytesOfDigits last (sextets [first, second, third]) = .ok [first, second, third] := by
  have one := first.toNat_lt
  have two := second.toNat_lt
  have three := third.toNat_lt
  simp only [sextets, bytesOfDigits]
  congr 2
  · exact ofNat_eq (by omega)
  · congr 1
    · exact ofNat_eq (by omega)
    · congr 1
      exact ofNat_eq (by omega)

theorem bytesOfDigits_two (last : Nat) (first second : UInt8) :
    bytesOfDigits last (sextets [first, second]) = .ok [first, second] := by
  have one := first.toNat_lt
  have two := second.toNat_lt
  simp only [sextets, bytesOfDigits]
  rw [if_pos (by omega)]
  congr 2
  · exact ofNat_eq (by omega)
  · congr 1
    exact ofNat_eq (by omega)

theorem bytesOfDigits_one (last : Nat) (first : UInt8) :
    bytesOfDigits last (sextets [first]) = .ok [first] := by
  have one := first.toNat_lt
  simp only [sextets, bytesOfDigits]
  rw [if_pos (by omega)]
  congr 2
  exact ofNat_eq (by omega)

/-- **The groups of bytes give the bytes back.** -/
theorem bytesOfGroups_sextets (bytes : List UInt8) (position : Nat) :
    bytesOfGroups position (sextets bytes) = .ok bytes := by
  induction bytes using sextets.induct generalizing position with
  | case1 first second third rest ih =>
      have block := bytesOfDigits_three (position + 3) first second third
      simp only [sextets] at block
      simp only [sextets, bytesOfGroups]
      rw [block, ih]
      rfl
  | case2 first second => exact bytesOfDigits_two _ first second
  | case3 first => exact bytesOfDigits_one _ first
  | case4 => rfl

/-! ## Blocks -/

/-- The byte of a padding character. -/
def paddingByte : UInt8 := UInt8.ofNat '='.toNat

/-- Padding at the end of a block is taken away. -/
theorem unpad_append {block : List UInt8} (unpadded : ∀ symbol ∈ block, Char.ofUInt8 symbol ≠ '=')
    (count : Nat) : unpad (block ++ List.replicate count paddingByte) = block := by
  have trailing : ∀ symbol ∈ List.replicate count paddingByte,
      (Char.ofUInt8 symbol == '=') = true := by
    intro symbol member
    obtain rfl := (List.mem_replicate.mp member).2
    rfl
  exact Text.dropEndWhile_append trailing fun symbol last =>
    beq_false_of_ne (unpadded symbol (List.mem_of_mem_getLast? last))

/-- A block is read as the digits of what stands before its padding. -/
theorem decodeBlock_append (solid : '=' ∉ alphabet) {position : Nat} {block : List UInt8}
    {digits : List Nat} (read : digitsOf alphabet position block = .ok digits)
    (enough : 2 ≤ block.length) (count : Nat) :
    decodeBlock alphabet position (block ++ List.replicate count paddingByte) =
      bytesOfDigits (position + block.length - 1) digits := by
  have left := unpad_append (fun symbol member same =>
    solid (same ▸ (of_digitsOf_eq_ok read).2 symbol member)) count
  rw [decodeBlock, left, if_neg (Nat.not_lt.mpr enough), read]
  rfl

/-- **What is read without padding is read in the same way block by block.** -/
theorem decodeBlocks_eq_bytesOfGroups (solid : '=' ∉ alphabet) {position : Nat}
    {symbols : List UInt8} {digits : List Nat}
    (read : digitsOf alphabet position symbols = .ok digits) (whole : symbols.length % 4 = 0) :
    decodeBlocks alphabet position symbols = bytesOfGroups position digits := by
  induction position, symbols using decodeBlocks.induct generalizing digits with
  | case1 position first second third fourth rest ih =>
      obtain ⟨block, others, here, later, rfl⟩ :=
        @exists_of_digitsOf_append alphabet position [first, second, third, fourth] rest digits read
      have decoded := decodeBlock_append solid here (Nat.le_add_left 2 2) 0
      rw [List.replicate_zero, List.append_nil] at decoded
      have size : block.length = 4 := (of_digitsOf_eq_ok here).1
      obtain ⟨a, b, c, d, rfl⟩ := List.length_eq_four.mp size
      rw [decodeBlocks, decoded, ih later (by simp only [List.length_cons] at whole; omega)]
      rfl
  | case2 symbols position short =>
      match symbols, short, whole with
      | [], _, _ =>
          cases read
          rfl
      | first :: second :: third :: fourth :: rest, short, _ =>
          exact absurd rfl (short first second third fourth rest)

/-- **Both decoders make the same bytes of a text that both read.** -/
theorem decode_eq_decodeUnpadded (solid : '=' ∉ alphabet) {symbols padded unpadded : List UInt8}
    (one : decode alphabet symbols = .ok padded)
    (two : decodeUnpadded alphabet symbols = .ok unpadded) : padded = unpadded := by
  have whole : symbols.length % 4 = 0 := by
    by_contra broken
    rw [decode, if_neg broken] at one
    cases one
  rw [decode, if_pos whole] at one
  rw [decodeUnpadded, if_neg (by omega)] at two
  cases read : digitsOf alphabet 0 symbols with
  | error _ =>
      rw [read] at two
      cases two
  | ok digits =>
      rw [read] at two
      rw [decodeBlocks_eq_bytesOfGroups solid read whole] at one
      exact Except.ok.inj (one.symm.trans two)

/-! ## Written texts -/

section Written

variable (listed : Alphabet alphabet 64) (bytes : List UInt8)

include listed

/-- The bytes of a text without padding. -/
theorem utf8_encodeUnpadded : Text.utf8 (encodeUnpadded alphabet bytes) =
    (sextets bytes).map (symbolByte alphabet) := by
  rw [encodeUnpadded_eq, utf8_symbols listed (sextets_lt bytes)]

/-- **The form without padding is read as the bytes that were written.** -/
theorem decodeUnpadded_encodeUnpadded :
    decodeUnpadded alphabet (Text.utf8 (encodeUnpadded alphabet bytes)) = .ok bytes := by
  have fits : (sextets bytes).length % 4 ≠ 1 := by
    have filled := length_sextets bytes
    omega
  rw [utf8_encodeUnpadded listed, decodeUnpadded, List.length_map, if_neg fits,
    digitsOf_symbolBytes listed (sextets_lt bytes)]
  exact bytesOfGroups_sextets bytes 0

/-- Padded blocks are read as the bytes that were written. -/
theorem decodeBlocks_sextets (solid : '=' ∉ alphabet) (position : Nat) :
    decodeBlocks alphabet position ((sextets bytes).map (symbolByte alphabet) ++
      List.replicate ((3 - bytes.length % 3) % 3) paddingByte) = .ok bytes := by
  have block : ∀ (position : Nat) (part : List UInt8), 2 ≤ (sextets part).length → ∀ count,
      decodeBlock alphabet position ((sextets part).map (symbolByte alphabet) ++
        List.replicate count paddingByte) =
      bytesOfDigits (position + (sextets part).length - 1) (sextets part) := by
    intro position part enough count
    have read := digitsOf_symbolBytes listed (sextets_lt part) position
    have decoded := decodeBlock_append solid read (by rwa [List.length_map]) count
    rwa [List.length_map] at decoded
  induction bytes using sextets.induct generalizing position with
  | case1 first second third rest ih =>
      have one := block position [first, second, third] (Nat.le_add_left 2 2) 0
      rw [bytesOfDigits_three, List.replicate_zero, List.append_nil] at one
      have count : (3 - (first :: second :: third :: rest).length % 3) % 3 =
          (3 - rest.length % 3) % 3 := by
        simp only [List.length_cons]
        omega
      rw [count]
      have later := ih (position + 4)
      simp only [sextets, List.map_cons, List.map_nil] at one
      simp only [sextets, List.map_cons, List.cons_append, decodeBlocks]
      rw [one, later]
      rfl
  | case2 first second =>
      have one := block position [first, second] (Nat.le_add_left 2 1) 1
      rw [bytesOfDigits_two] at one
      exact congrArg (· >>= fun decoded => pure (decoded ++ [])) one
  | case3 first =>
      have one := block position [first] (Nat.le_refl 2) 2
      rw [bytesOfDigits_one] at one
      exact congrArg (· >>= fun decoded => pure (decoded ++ [])) one
  | case4 => rfl

/-- **The padded form is read as the bytes that were written.** -/
theorem decode_encode_bytes (solid : '=' ∉ alphabet) :
    decode alphabet (Text.utf8 (encode alphabet bytes)) = .ok bytes := by
  have written : Text.utf8 (encode alphabet bytes) = (sextets bytes).map (symbolByte alphabet) ++
      List.replicate ((3 - bytes.length % 3) % 3) paddingByte := by
    rw [encode, Text.utf8_append, utf8_encodeUnpadded listed, padding, Text.utf8_of_ascii,
      List.map_replicate]
    · rfl
    · intro character member
      obtain rfl := (List.mem_replicate.mp member).2
      decide
  have whole : (Text.utf8 (encode alphabet bytes)).length % 4 = 0 := by
    rw [written, List.length_append, List.length_map, List.length_replicate, length_sextets]
    exact Nat.mul_mod_left _ _
  rw [decode, if_pos whole, written]
  exact decodeBlocks_sextets listed bytes solid 0

/-- The form without padding holds no padding anywhere. -/
theorem padding_not_mem_encodeUnpadded (solid : '=' ∉ alphabet) :
    '=' ∉ encodeUnpadded alphabet bytes := by
  intro member
  rw [encodeUnpadded_eq] at member
  obtain ⟨digit, within, same⟩ := List.mem_map.mp member
  exact solid (same ▸ listed.symbolOf_mem (sextets_lt bytes digit within))

end Written

end Rego.Encoding.Base64
