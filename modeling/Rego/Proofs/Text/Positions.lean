import Rego.Proofs.Text.Search

/-!
# Positions of a piece

A search works with byte offsets and goes on one character behind the start of each occurrence. All
its offsets are the sizes of beginnings of the text, and there the text goes on with a character
(`fromByte_byteSize`) and the characters in front can be counted (`charactersBefore_byteSize`). So
one round of the search lists the leftmost occurrence behind what has been passed, as a number of
characters (`positionsFrom_of_leftmost`), and the whole search lists every position at which the
piece occurs, in ascending order (`lists_positions`).
-/

namespace Rego.Text

set_option autoImplicit false

variable {piece text before after rest : List Char} {character : Char} {position : Nat}

/-! ## Byte offsets -/

theorem byteSize_cons (character : Char) (text : List Char) :
    byteSize (character :: text) = character.utf8Size + byteSize text := rfl

theorem byteSize_append (front back : List Char) :
    byteSize (front ++ back) = byteSize front + byteSize back := by
  induction front with
  | nil => exact (Nat.zero_add _).symm
  | cons character front ih =>
      rw [List.cons_append, byteSize, byteSize, ih, Nat.add_assoc]

theorem fromByte_zero (text : List Char) : fromByte 0 text = text := by
  cases text <;> rfl

theorem charactersBefore_zero (text : List Char) : charactersBefore 0 text = 0 := by
  cases text <;> rfl

/-- An offset behind the first character is one in the rest of the text. -/
theorem exists_utf8Size_add (character : Char) (offset : Nat) :
    ∃ further, character.utf8Size + offset = further + 1 ∧
      further + 1 - character.utf8Size = offset := by
  have positive := character.utf8Size_pos
  exact ⟨character.utf8Size + offset - 1, by omega, by omega⟩

theorem fromByte_utf8Size_add (character : Char) (offset : Nat) (text : List Char) :
    fromByte (character.utf8Size + offset) (character :: text) = fromByte offset text := by
  obtain ⟨further, behind, back⟩ := exists_utf8Size_add character offset
  rw [behind, fromByte, back]

theorem charactersBefore_utf8Size_add (character : Char) (offset : Nat) (text : List Char) :
    charactersBefore (character.utf8Size + offset) (character :: text) =
      charactersBefore offset text + 1 := by
  obtain ⟨further, behind, back⟩ := exists_utf8Size_add character offset
  rw [behind, charactersBefore, back]

/-- **Behind the bytes of a beginning a text goes on with what follows the beginning.** -/
theorem fromByte_byteSize (passed rest : List Char) :
    fromByte (byteSize passed) (passed ++ rest) = rest := by
  induction passed with
  | nil => exact fromByte_zero rest
  | cons character passed ih =>
      rw [byteSize_cons, List.cons_append, fromByte_utf8Size_add, ih]

/-- **In front of the offset where a beginning ends stand the characters of the beginning.** -/
theorem charactersBefore_byteSize (passed rest : List Char) :
    charactersBefore (byteSize passed) (passed ++ rest) = passed.length := by
  induction passed with
  | nil => exact charactersBefore_zero rest
  | cons character passed ih =>
      rw [byteSize_cons, List.cons_append, charactersBefore_utf8Size_add, ih, List.length_cons]

/-! ## Rounds of the search -/

theorem positionsFrom_of_absent (passed : List Char) (absent : ¬piece <:+: rest) :
    positionsFrom piece (passed ++ rest) (byteSize passed) = [] := by
  rw [positionsFrom, fromByte_byteSize, find?, cut?_eq_none_iff.mpr absent]
  rfl

theorem positionsFrom_of_found {start offset : Nat}
    (found : find? piece (fromByte start text) = some offset)
    (here : fromByte (start + offset) text = character :: rest) :
    positionsFrom piece text start = charactersBefore (start + offset) text ::
      positionsFrom piece text (start + offset + character.utf8Size) := by
  rw [positionsFrom, found]
  dsimp only
  split
  · next ends => rw [here] at ends; cases ends
  · next goes => rw [here] at goes; cases goes; rfl

theorem find?_of_leftmost (leftmost : Leftmost piece text before after) :
    find? piece text = some (byteSize before) := by
  rw [find?, cut?_eq_some_iff.mpr leftmost]
  rfl

/-- **A round lists the leftmost occurrence** and goes on one character behind its start. -/
theorem positionsFrom_of_leftmost (passed : List Char)
    (leftmost : Leftmost piece rest before after) {later : List Char}
    (goes : rest = before ++ character :: later) :
    positionsFrom piece (passed ++ rest) (byteSize passed) =
      (passed ++ before).length ::
        positionsFrom piece (passed ++ rest) (byteSize (passed ++ before ++ [character])) := by
  have whole : passed ++ rest = passed ++ before ++ character :: later := by
    rw [goes, List.append_assoc]
  have found : find? piece (fromByte (byteSize passed) (passed ++ rest)) =
      some (byteSize before) := by
    rw [fromByte_byteSize, find?_of_leftmost leftmost]
  have here : fromByte (byteSize passed + byteSize before) (passed ++ rest) =
      character :: later := by
    rw [← byteSize_append, whole, fromByte_byteSize]
  have counted : charactersBefore (byteSize passed + byteSize before) (passed ++ rest) =
      (passed ++ before).length := by
    rw [← byteSize_append, whole, charactersBefore_byteSize]
  have next : byteSize passed + byteSize before + character.utf8Size =
      byteSize (passed ++ before ++ [character]) := by
    rw [byteSize_append, byteSize_append]
    rfl
  rw [positionsFrom_of_found found here, counted, next]

/-- At an occurrence of a piece that is not empty a text goes on with a character. -/
theorem Leftmost.exists_cons (inhabited : piece ≠ [])
    (leftmost : Leftmost piece text before after) :
    ∃ character later, text = before ++ character :: later := by
  obtain ⟨character, further, rfl⟩ := List.exists_cons_of_ne_nil inhabited
  refine ⟨character, further ++ after, ?_⟩
  rw [leftmost.whole, List.append_assoc, List.cons_append]

/-! ## All positions -/

/-- A search lists the occurrences behind what it has passed, in ascending order. -/
structure Lists (piece text : List Char) (start : Nat) (positions : List Nat) : Prop where
  mem_iff : ∀ position, position ∈ positions ↔ start ≤ position ∧ OccursAt piece text position
  ascending : positions.Pairwise (· < ·)

theorem lists_nil (passed : List Char) (absent : ¬piece <:+: rest) :
    Lists piece (passed ++ rest) passed.length [] where
  mem_iff position := by
    refine ⟨nofun, fun ⟨behind, occurs⟩ => ?_⟩
    obtain ⟨further, rfl⟩ := Nat.exists_eq_add_of_le behind
    exact absurd (exists_occursAt_iff.mp ⟨_, (occursAt_append_iff passed).mp occurs⟩) absent
  ascending := .nil

/-- The leftmost occurrence is listed in front of those behind its start. -/
theorem Lists.cons {passed : List Char} {positions : List Nat}
    (leftmost : Leftmost piece rest before after)
    (further : Lists piece (passed ++ rest) ((passed ++ before).length + 1) positions) :
    Lists piece (passed ++ rest) passed.length ((passed ++ before).length :: positions) where
  mem_iff position := by
    rw [List.mem_cons, further.mem_iff, List.length_append]
    constructor
    · rintro (rfl | ⟨behind, occurs⟩)
      · exact ⟨Nat.le_add_right .., (occursAt_append_iff passed).mpr leftmost.occursAt⟩
      · exact ⟨by omega, occurs⟩
    · rintro ⟨behind, occurs⟩
      obtain ⟨ahead, rfl⟩ := Nat.exists_eq_add_of_le behind
      rcases Nat.lt_trichotomy ahead before.length with less | rfl | more
      · exact absurd ((occursAt_append_iff passed).mp occurs) (leftmost.first ahead less)
      · exact .inl rfl
      · exact .inr ⟨by omega, occurs⟩
  ascending := by
    refine List.pairwise_cons.mpr ⟨fun position member => ?_, further.ascending⟩
    exact Nat.lt_of_succ_le ((further.mem_iff position).mp member).1

theorem lists_positionsFrom (inhabited : piece ≠ []) (passed rest : List Char) :
    Lists piece (passed ++ rest) passed.length
      (positionsFrom piece (passed ++ rest) (byteSize passed)) := by
  induction count : rest.length using Nat.strong_induction_on generalizing passed rest with
  | h length ih =>
      cases found : cut? piece rest with
      | none =>
          have absent := cut?_eq_none_iff.mp found
          rw [positionsFrom_of_absent passed absent]
          exact lists_nil passed absent
      | some cut =>
          obtain ⟨before, after⟩ := cut
          have leftmost := leftmost_of_cut? found
          obtain ⟨character, later, goes⟩ := leftmost.exists_cons inhabited
          rw [positionsFrom_of_leftmost passed leftmost goes]
          refine .cons leftmost ?_
          have whole : passed ++ rest = passed ++ before ++ [character] ++ later := by
            rw [goes]
            simp
          have further : (passed ++ before ++ [character]).length =
              (passed ++ before).length + 1 := List.length_append
          have shorter : later.length < length := by
            rw [← count, goes, List.length_append, List.length_cons]
            omega
          have lists := ih later.length shorter (passed ++ before ++ [character]) later rfl
          rwa [← whole, further] at lists

/-- **The positions of a piece are where it occurs,** in ascending order. -/
theorem lists_positions (inhabited : piece ≠ []) (text : List Char) :
    Lists piece text 0 (positions piece text) :=
  lists_positionsFrom inhabited [] text

theorem mem_positions_iff (inhabited : piece ≠ []) :
    position ∈ positions piece text ↔ OccursAt piece text position := by
  rw [(lists_positions inhabited text).mem_iff]
  exact and_iff_right (Nat.zero_le position)

/-- **The position that is found first is the first of all positions.** -/
theorem position?_eq_head? (inhabited : piece ≠ []) (text : List Char) :
    position? piece text = (positions piece text).head? := by
  cases found : cut? piece text with
  | none =>
      have none : positions piece text = [] :=
        positionsFrom_of_absent [] (cut?_eq_none_iff.mp found)
      rw [none, position?, find?, found]
      rfl
  | some cut =>
      obtain ⟨before, after⟩ := cut
      have leftmost := leftmost_of_cut? found
      obtain ⟨character, later, goes⟩ := leftmost.exists_cons inhabited
      have first : charactersBefore (byteSize before) text = before.length := by
        rw [goes, charactersBefore_byteSize]
      have round := positionsFrom_of_leftmost [] leftmost goes
      rw [position?, find?_of_leftmost leftmost, Option.map_some, first]
      exact (congrArg List.head? round).symm

/-! ## Prefixes, suffixes and infixes -/

theorem contains_eq_decide (inhabited : piece ≠ []) (text : List Char) :
    contains piece text = decide (positions piece text ≠ []) := by
  rw [Bool.eq_iff_iff, contains_iff, decide_eq_true_iff, ← exists_occursAt_iff, ne_eq,
    List.eq_nil_iff_forall_not_mem, not_forall_not]
  exact exists_congr fun position => (mem_positions_iff inhabited).symm

theorem startsWith_eq_decide (inhabited : piece ≠ []) (text : List Char) :
    startsWith piece text = decide (0 ∈ positions piece text) := by
  rw [Bool.eq_iff_iff, startsWith_iff, decide_eq_true_iff, mem_positions_iff inhabited,
    occursAt_zero_iff]

theorem endsWith_eq_decide (inhabited : piece ≠ []) (text : List Char) :
    endsWith piece text = decide (piece.length ≤ text.length ∧
      text.length - piece.length ∈ positions piece text) := by
  rw [Bool.eq_iff_iff, endsWith_iff, decide_eq_true_iff, mem_positions_iff inhabited,
    suffix_iff_occursAt]

end Rego.Text
