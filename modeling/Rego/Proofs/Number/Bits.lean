import Mathlib.Data.Rat.Floor
import Rego.Proofs.Number.Exact

/-!
# Bits of integral numbers

An integer is an infinite sequence of bits: the bit at a place is the parity of the integer's
quotient by the power of two of that place, rounded down (`bit_eq_decide`). Conjunctions,
disjunctions and complements are computed from magnitudes, with a case for each sign, and yet act
bit by bit on these sequences; shifts multiply by powers of two and divide by them, rounding down.

On numbers, the operations read integral values, in whatever representation, and write the result in
its one written form. They are undefined exactly where a value is no integer, or a shift is none
below `2 ^ 32` (`bits_twos_complement`).
-/

namespace Rego

set_option autoImplicit false

namespace Bits

/-! ## Sequences of bits -/

/-- **The bits of an integer are those of its two's complement.** -/
theorem bit_eq_decide (whole : Int) (place : Nat) :
    bit whole place = decide (whole / 2 ^ place % 2 = 1) := by
  cases whole with
  | ofNat number =>
      have quotient : Int.ofNat number / 2 ^ place = (number / 2 ^ place : Nat) := by
        push_cast
        rfl
      rw [bit, Nat.testBit_eq_decide_div_mod_eq, quotient, decide_eq_decide]
      omega
  | negSucc number =>
      have quotient : Int.negSucc number / 2 ^ place = -((number / 2 ^ place : Nat) + 1) := by
        rw [Int.negSucc_ediv number (Int.pow_pos (by decide))]
        push_cast
        rfl
      rw [bit, Nat.testBit_eq_decide_div_mod_eq, quotient, ← decide_not, decide_eq_decide]
      omega

theorem testBit_without (left right place : Nat) :
    (without left right).testBit place = (left.testBit place && !right.testBit place) := by
  simp only [without, Nat.testBit_xor, Nat.testBit_and]
  cases left.testBit place <;> simp

theorem bit_and (left right : Int) (place : Nat) :
    bit (and left right) place = (bit left place && bit right place) := by
  cases left <;> cases right <;>
    simp [and, bit, testBit_without, Bool.and_comm]

theorem bit_or (left right : Int) (place : Nat) :
    bit (or left right) place = (bit left place || bit right place) := by
  cases left <;> cases right <;>
    simp [or, bit, testBit_without, Bool.or_comm]

theorem bit_xor (left right : Int) (place : Nat) :
    bit (xor left right) place = (bit left place ^^ bit right place) := by
  cases left <;> cases right <;> simp [xor, bit]

theorem bit_complement (whole : Int) (place : Nat) :
    bit (complement whole) place = !bit whole place := by
  cases whole with
  | ofNat number =>
      have flipped : complement (.ofNat number) = .negSucc number := by
        rw [complement, Int.ofNat_eq_natCast]
        omega
      rw [flipped]
      rfl
  | negSucc number =>
      have flipped : complement (.negSucc number) = .ofNat number := by
        rw [complement, Int.ofNat_eq_natCast]
        omega
      rw [flipped, bit, bit, Bool.not_not]

theorem complement_complement (whole : Int) : complement (complement whole) = whole := by
  unfold complement
  omega

theorem shiftLeft_eq_mul (whole : Int) (places : Nat) :
    shiftLeft whole places = whole * 2 ^ places := by
  unfold shiftLeft
  split
  · next zero => rw [zero, Int.zero_mul]
  · rfl

/-- Dropping places rounds down, below zero as well. -/
theorem shiftRight_eq_floor (whole : Int) (places : Nat) :
    shiftRight whole places = ⌊(whole : ℚ) / 2 ^ places⌋ := by
  have floored := Rat.floor_intCast_div_natCast whole (2 ^ places)
  push_cast at floored
  rw [shiftRight, Int.shiftRight_eq_div_pow, floored]
  push_cast
  rfl

theorem shiftRight_shiftLeft (whole : Int) (places : Nat) :
    shiftRight (shiftLeft whole places) places = whole := by
  have power : (2 : ℚ) ^ places ≠ 0 := pow_ne_zero places (by norm_num)
  rw [shiftRight_eq_floor, shiftLeft_eq_mul]
  push_cast
  rw [mul_div_cancel_right₀ _ power, Int.floor_intCast]

end Bits

namespace Number

variable {left right number amount : Number} {first second whole : Int} {places : Nat}

/-! ## Operands -/

/-- A number that bits can be shifted by: a natural number below `2 ^ 32`. -/
def IsShift (amount : Number) : Prop := ∃ places : Nat, places < 2 ^ 32 ∧ amount.Denotes places

theorem shiftAmount?_eq_some_iff :
    amount.shiftAmount? = some places ↔ amount.Denotes places ∧ places < 2 ^ 32 := by
  rw [shiftAmount?, Option.filter_eq_some_iff, toUnsigned?_eq_some_iff, decide_eq_true_eq]
  constructor
  · rintro ⟨⟨denotes, _⟩, small⟩
    exact ⟨denotes, small⟩
  · rintro ⟨denotes, small⟩
    exact ⟨⟨denotes, small.trans (by decide)⟩, small⟩

theorem shiftAmount?_eq_none_iff : amount.shiftAmount? = none ↔ ¬amount.IsShift := by
  rw [Option.eq_none_iff_forall_ne_some, IsShift, not_exists]
  refine forall_congr' fun places => not_congr ?_
  rw [shiftAmount?_eq_some_iff, and_comm]

/-! ## Operations -/

theorem liftBits_of_denotes (operation : Int → Int → Int) (one : left.Denotes first)
    (two : right.Denotes second) :
    liftBits operation left right = some (ofInt (operation first second)) := by
  rw [liftBits, toInt?_eq_some_iff.mpr one, toInt?_eq_some_iff.mpr two]
  rfl

theorem liftBits_eq_none_iff (operation : Int → Int → Int) :
    liftBits operation left right = none ↔ ¬(left.IsWhole ∧ right.IsWhole) := by
  rw [not_and_or, not_isWhole_iff, not_isWhole_iff, liftBits]
  cases left.toInt? <;> cases right.toInt? <;> simp

theorem complement_of_denotes (denotes : number.Denotes whole) :
    number.complement = some (ofInt (Bits.complement whole)) := by
  rw [complement, toInt?_eq_some_iff.mpr denotes]
  rfl

theorem complement_eq_none_iff : number.complement = none ↔ ¬number.IsWhole := by
  rw [not_isWhole_iff, complement, Option.map_eq_none_iff]

theorem shiftLeft_of_denotes (denotes : number.Denotes whole) (shift : amount.Denotes places)
    (small : places < 2 ^ 32) :
    number.shiftLeft amount = some (ofInt (Bits.shiftLeft whole places)) := by
  rw [shiftLeft, shiftAmount?_eq_some_iff.mpr ⟨shift, small⟩, toInt?_eq_some_iff.mpr denotes]
  rfl

theorem shiftRight_of_denotes (denotes : number.Denotes whole) (shift : amount.Denotes places)
    (small : places < 2 ^ 32) :
    number.shiftRight amount = some (ofInt (Bits.shiftRight whole places)) := by
  rw [shiftRight, shiftAmount?_eq_some_iff.mpr ⟨shift, small⟩, toInt?_eq_some_iff.mpr denotes]
  rfl

theorem shiftLeft_eq_none_iff :
    number.shiftLeft amount = none ↔ ¬(number.IsWhole ∧ amount.IsShift) := by
  rw [not_and_or, not_isWhole_iff, ← shiftAmount?_eq_none_iff, shiftLeft]
  cases number.toInt? <;> cases amount.shiftAmount? <;> simp

theorem shiftRight_eq_none_iff :
    number.shiftRight amount = none ↔ ¬(number.IsWhole ∧ amount.IsShift) := by
  rw [not_and_or, not_isWhole_iff, ← shiftAmount?_eq_none_iff, shiftRight]
  cases number.toInt? <;> cases amount.shiftAmount? <;> simp

/-- **Bit operations are those of infinite two's complement.** Conjunctions, disjunctions, exclusive
disjunctions and complements of integral values act on every bit, left shifts multiply by a power of
two, and right shifts divide by it and round down; the results are the written forms of integers. A
complement taken twice and a left shift taken back give the value again. The operations are
undefined exactly if a value is not integral or the shift is no natural number below `2 ^ 32`. -/
theorem bits_twos_complement :
    (∀ (whole : Int) (place : Nat),
      Bits.bit whole place = decide (whole / 2 ^ place % 2 = 1)) ∧
    (∀ whole : Int, (∃ value, ofInt whole = .word value) ↔ FitsWord whole) ∧
    (∀ (left right : Number) (first second : Int), left.Denotes first → right.Denotes second →
      ∃ both either differing : Int,
        (left.and right = some (ofInt both) ∧
          ∀ place, Bits.bit both place = (Bits.bit first place && Bits.bit second place)) ∧
        (left.or right = some (ofInt either) ∧
          ∀ place, Bits.bit either place = (Bits.bit first place || Bits.bit second place)) ∧
        (left.xor right = some (ofInt differing) ∧
          ∀ place, Bits.bit differing place = (Bits.bit first place ^^ Bits.bit second place))) ∧
    (∀ (number : Number) (whole : Int), number.Denotes whole →
      number.complement = some (ofInt (-whole - 1)) ∧
      (∀ place, Bits.bit (-whole - 1) place = !Bits.bit whole place) ∧
      number.complement.bind complement = some (ofInt whole)) ∧
    (∀ (number amount : Number) (whole : Int) (places : Nat), number.Denotes whole →
      amount.Denotes places → places < 2 ^ 32 →
        number.shiftLeft amount = some (ofInt (whole * 2 ^ places)) ∧
        number.shiftRight amount = some (ofInt ⌊(whole : ℚ) / 2 ^ places⌋) ∧
        (number.shiftLeft amount).bind (fun shifted => shifted.shiftRight amount) =
          some (ofInt whole)) ∧
    (∀ left right : Number, ∀ operation ∈ [and, or, xor],
      operation left right = none ↔ ¬(left.IsWhole ∧ right.IsWhole)) ∧
    (∀ number : Number, number.complement = none ↔ ¬number.IsWhole) ∧
    ∀ number amount : Number, ∀ operation ∈ [shiftLeft, shiftRight],
      operation number amount = none ↔ ¬(number.IsWhole ∧ amount.IsShift) := by
  refine ⟨Bits.bit_eq_decide, fun whole => exists_word_iff, ?_, ?_, ?_, ?_, ?_, ?_⟩
  · intro left right first second one two
    exact ⟨_, _, _, ⟨liftBits_of_denotes _ one two, Bits.bit_and first second⟩,
      ⟨liftBits_of_denotes _ one two, Bits.bit_or first second⟩,
      ⟨liftBits_of_denotes _ one two, Bits.bit_xor first second⟩⟩
  · intro number whole denotes
    refine ⟨complement_of_denotes denotes, Bits.bit_complement whole, ?_⟩
    rw [complement_of_denotes denotes, Option.bind_some, complement_of_denotes (denotes_ofInt _),
      Bits.complement_complement]
  · intro number amount whole places denotes shift small
    refine ⟨?_, ?_, ?_⟩
    · rw [shiftLeft_of_denotes denotes shift small, Bits.shiftLeft_eq_mul]
    · rw [shiftRight_of_denotes denotes shift small, Bits.shiftRight_eq_floor]
    · rw [shiftLeft_of_denotes denotes shift small, Option.bind_some,
        shiftRight_of_denotes (denotes_ofInt _) shift small, Bits.shiftRight_shiftLeft]
  · intro left right operation member
    simp only [List.mem_cons, List.not_mem_nil, or_false] at member
    rcases member with rfl | rfl | rfl <;> exact liftBits_eq_none_iff _
  · intro number
    exact complement_eq_none_iff
  · intro number amount operation member
    simp only [List.mem_cons, List.not_mem_nil, or_false] at member
    rcases member with rfl | rfl
    · exact shiftLeft_eq_none_iff
    · exact shiftRight_eq_none_iff

/-- A negative integer beyond the words has the bits of every large power of two, also of one that
is a double; the complement of the negative zero; a negative integer is shifted down to the next
integer below. -/
theorem bits_twos_complement_negative :
    (∃ both, (ofInt (5 - 2 ^ 70)).and (.float (.ofBits 0x4480000000000000)) = some (ofInt both) ∧
      Bits.bit both 73 = true ∧ Bits.bit both 0 = false) ∧
    (float (.signedZero true)).complement = some (ofInt (-1)) ∧
    (ofInt (-7)).shiftRight (.float (.ofBits 0x3FF0000000000000)) = some (ofInt (-4)) := by
  obtain ⟨_, _, combined, complemented, shifted, _⟩ := bits_twos_complement
  have power : (float (.ofBits 0x4480000000000000)).Denotes (2 ^ 73) :=
    toInt?_eq_some_iff.mp (by decide +kernel)
  have zero : (float (.signedZero true)).Denotes 0 := toInt?_eq_some_iff.mp (by decide +kernel)
  have one : (float (.ofBits 0x3FF0000000000000)).Denotes (1 : Nat) :=
    toInt?_eq_some_iff.mp (by decide +kernel)
  refine ⟨?_, (complemented _ 0 zero).1, ?_⟩
  · obtain ⟨both, _, _, ⟨given, bits⟩, _⟩ := combined _ _ _ _ (denotes_ofInt (5 - 2 ^ 70)) power
    refine ⟨both, given, ?_, ?_⟩
    · rw [bits]
      decide
    · rw [bits]
      decide
  · have half : ⌊((-7 : Int) : ℚ) / 2 ^ 1⌋ = -4 := by
      rw [Int.floor_eq_iff]
      norm_num
    rw [(shifted _ _ _ 1 (denotes_ofInt (-7)) one (by decide)).2.1, half]

end Number

end Rego
