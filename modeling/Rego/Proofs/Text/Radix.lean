import Mathlib.Data.Nat.Digits.Defs
import Rego.Proofs.Text.Digits

/-!
# Integers in any radix

A text spells an integer in a radix when it consists of the symbols of digits below the radix,
without a leading zero, whose value is the magnitude, and a minus sign in front exactly for negative
integers (`Spells`). A text spells one integer at most in a radix (`Spells.unique`), and up to radix
thirty-six, where the letters end, every integer is written so (`spells_integerText`).
-/

namespace Rego.Radix

set_option autoImplicit false

/-! ## Spelling -/

/-- The symbols of digits: `0` to `9`, and then the lower-case letters. -/
def symbols : List Char := "0123456789abcdefghijklmnopqrstuvwxyz".toList

/-- Characters that are the symbols of digits, one by one. -/
def AreSymbols (characters : List Char) (digits : List Nat) : Prop :=
  characters.map some = digits.map fun digit => symbols[digit]?

/-- The digits of a number in a radix, from the most significant one on and without leading
zeros. -/
structure IsExpansion (radix : Nat) (digits : List Nat) (number : Nat) : Prop where
  inhabited : digits ≠ []
  below : ∀ digit ∈ digits, digit < radix
  leading : digits.head? = some 0 → digits = [0]
  value : Nat.ofDigits radix digits.reverse = number

/-- The text of an integer in a radix: the symbols of the digits of its magnitude, and a minus sign
in front of them exactly below zero. -/
def Spells (radix : Nat) (text : List Char) (whole : Int) : Prop :=
  ∃ characters digits, AreSymbols characters digits ∧ IsExpansion radix digits whole.natAbs ∧
    text = if whole < 0 then '-' :: characters else characters

/-! ## One text, one integer -/

theorem symbol_injective {digit other : Nat} {character : Char}
    (one : symbols[digit]? = some character) (two : symbols[other]? = some character) :
    digit = other := by
  obtain ⟨bound, _⟩ := List.getElem?_eq_some_iff.mp one
  exact (List.getElem?_inj bound (by decide)).mp (one.trans two.symm)

theorem AreSymbols.unique {characters : List Char} {digits others : List Nat}
    (one : AreSymbols characters digits) (two : AreSymbols characters others) :
    digits = others := by
  induction characters generalizing digits others with
  | nil =>
      rw [AreSymbols, List.map_nil, eq_comm, List.map_eq_nil_iff] at one two
      rw [one, two]
  | cons character rest ih =>
      rw [AreSymbols, List.map_cons, eq_comm, List.map_eq_cons_iff] at one two
      obtain ⟨digit, later, rfl, first, same⟩ := one
      obtain ⟨other, later', rfl, first', same'⟩ := two
      rw [symbol_injective first first', ih same.symm same'.symm]

/-- The minus sign is the symbol of no digit. -/
theorem AreSymbols.head?_ne {characters : List Char} {digits : List Nat}
    (are : AreSymbols characters digits) : characters.head? ≠ some '-' := by
  cases characters with
  | nil => exact nofun
  | cons character rest =>
      rw [AreSymbols, List.map_cons, eq_comm, List.map_eq_cons_iff] at are
      obtain ⟨digit, _, _, symbol, _⟩ := are
      rintro ⟨rfl⟩
      exact absurd (List.mem_of_getElem? symbol) (by decide)

/-- A minus sign stands in front exactly below zero. -/
theorem Spells.head?_eq_minus_iff {radix : Nat} {text : List Char} {whole : Int}
    (spells : Spells radix text whole) : text.head? = some '-' ↔ whole < 0 := by
  obtain ⟨characters, digits, are, _, rfl⟩ := spells
  split
  · next below => simp [below]
  · next above => exact iff_of_false are.head?_ne above

/-- **A text spells one integer at most.** -/
theorem Spells.unique {radix : Nat} {text : List Char} {whole other : Int}
    (one : Spells radix text whole) (two : Spells radix text other) : whole = other := by
  have signs : whole < 0 ↔ other < 0 := by
    rw [← one.head?_eq_minus_iff, ← two.head?_eq_minus_iff]
  obtain ⟨characters, digits, are, expansion, rfl⟩ := one
  obtain ⟨characters', digits', are', expansion', same⟩ := two
  have equal : characters = characters' := by
    simp only [signs] at same
    split at same
    · exact List.tail_eq_of_cons_eq same
    · exact same
  subst equal
  obtain rfl := are.unique are'
  have magnitudes := expansion.value.symm.trans expansion'.value
  omega

/-! ## Written integers -/

theorem symbols_digitChar : ∀ digit < 36, symbols[digit]? = some (digitChar digit) := by decide

theorem areSymbols_digitChar {digits : List Nat} (below : ∀ digit ∈ digits, digit < 36) :
    AreSymbols (digits.map digitChar) digits := by
  rw [AreSymbols, List.map_map]
  exact List.map_congr_left fun digit member => (symbols_digitChar digit (below digit member)).symm

/-- **The digits of a number are written without leading zeros.** -/
theorem exists_expansion {radix : Nat} (base : 1 < radix) (number : Nat) :
    ∃ expansion, digits radix number = expansion.map digitChar ∧
      IsExpansion radix expansion number := by
  induction number using Nat.strongRecOn with
  | ind number ih =>
      rcases Nat.lt_or_ge number radix with small | large
      · refine ⟨[number], digits_of_lt small, ⟨List.cons_ne_nil _ _, ?_, ?_, ?_⟩⟩
        · exact List.forall_mem_singleton.mpr small
        · rintro ⟨rfl⟩
          rfl
        · exact Nat.ofDigits_singleton
      · obtain ⟨front, written, expansion⟩ := ih (number / radix) (Nat.div_lt_self (by omega) base)
        refine ⟨front ++ [number % radix], ?_, ?_, ?_, ?_, ?_⟩
        · rw [digits_of_le base large, written, List.map_append]
          rfl
        · exact List.append_ne_nil_of_left_ne_nil expansion.inhabited _
        · exact List.forall_mem_append.mpr ⟨expansion.below,
            List.forall_mem_singleton.mpr (Nat.mod_lt _ (by omega))⟩
        · -- The digits in front are those of a positive number, so they do not start with a zero.
          intro leading
          have opening : front.head? = some 0 := by
            obtain ⟨first, rest, rfl⟩ := List.exists_cons_of_ne_nil expansion.inhabited
            exact leading
          have none := expansion.value
          rw [expansion.leading opening, List.reverse_singleton, Nat.ofDigits_singleton] at none
          exact absurd none.symm (Nat.div_pos large (by omega)).ne'
        · rw [List.reverse_append, List.reverse_singleton, List.singleton_append, Nat.ofDigits_cons,
            expansion.value]
          exact Nat.mod_add_div number radix

/-- **The text of an integer spells it**, in every radix that has enough symbols. -/
theorem spells_integerText {radix : Nat} (base : 2 ≤ radix) (enough : radix ≤ 36) (whole : Int) :
    Spells radix (integerText radix whole) whole := by
  obtain ⟨expansion, written, is⟩ := exists_expansion base whole.natAbs
  refine ⟨digits radix whole.natAbs, expansion, ?_, is, rfl⟩
  rw [written]
  exact areSymbols_digitChar fun digit member => (is.below digit member).trans_le enough

end Rego.Radix
