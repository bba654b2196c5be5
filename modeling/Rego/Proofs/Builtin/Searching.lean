import Rego.Proofs.Builtin.Strings
import Rego.Proofs.Text.Positions

/-!
# Calls that search

The positions that a search gives are the offsets at which a portion of the length of the piece is
the piece. The offset and the length of a portion have to be words, so for texts that fit into
memory both calls say the same at every natural number (`gives_substring_iff`). All questions about
where a string has a piece are answered by the positions (`search_positions_exact`).
-/

namespace Rego.Builtin.Strings

set_option autoImplicit false

open Argument (IsWord)
open Registry (Gives Fails)

variable {whole piece : String}

/-! ## Portions -/

theorem portion_natCast (characters : List Char) (position count : Nat) :
    portion characters position count = (characters.drop position).take count := by
  have nonnegative : ¬(count : Int) < 0 := Int.not_lt.mpr (Int.natCast_nonneg count)
  rw [portion, if_neg nonnegative, Int.toNat_natCast, Int.toNat_natCast]

theorem text_eq_iff {characters : List Char} {whole : String} :
    text characters = .string whole ↔ characters = whole.toList := by
  rw [text, Value.string.injEq, ← String.toList_inj, String.toList_ofList]

/-- The length of a text that fits into memory is a word, and so is every position in it. -/
theorem isWord_natCast {number : Number} {count limit : Nat} (denotes : number.Denotes count)
    (least : count ≤ limit) (small : limit < 2 ^ 63) : IsWord (.number number) count :=
  Argument.isWord_number_iff.mpr ⟨denotes, by omega, by omega⟩

/-- **A portion is the piece exactly where the piece occurs,** in a text that fits into memory. -/
theorem gives_substring_iff (inhabited : piece.toList ≠ []) (small : whole.length < 2 ^ 63)
    {offset : Number} {position : Nat} (denotes : offset.Denotes position) :
    Gives "substring" [.string whole, .number offset, .ofNat piece.length] (.string piece) ↔
      Text.OccursAt piece.toList whole.toList position := by
  have length : (Number.ofNat piece.length).Denotes piece.length := Number.denotes_ofInt _
  have portion_iff : ∀ {first count : Int}, IsWord (.number offset) first →
      IsWord (.number (.ofNat piece.length)) count →
      (Gives "substring" [.string whole, .number offset, .ofNat piece.length] (.string piece) ↔
        Text.OccursAt piece.toList whole.toList position) := by
    intro first count one two
    obtain rfl := (Argument.isWord_number_iff.mp one).1.unique denotes
    obtain rfl := (Argument.isWord_number_iff.mp two).1.unique length
    have gives := @gives_substring whole _ _ _ _ one two
    rw [Text.occursAt_iff_take inhabited, ← portion_natCast, String.length_toList, ← text_eq_iff]
    exact ⟨gives.unique, fun same => same ▸ gives⟩
  constructor
  · intro gives
    have words : ∀ number ∈ [offset, .ofNat piece.length],
        ∃ whole, IsWord (.number number) whole := by
      by_contra other
      push Not at other
      obtain ⟨cause, fails⟩ := fails_substring other
      exact fails.not_gives _ gives
    obtain ⟨_, one⟩ := words offset List.mem_cons_self
    obtain ⟨_, two⟩ := words _ (List.mem_cons_of_mem _ List.mem_cons_self)
    exact (portion_iff one two).mp gives
  · intro occurs
    have inside := occurs.add_length_le
    rw [String.length_toList, String.length_toList] at inside
    exact (portion_iff (isWord_natCast denotes (by omega) small)
      (isWord_natCast length (by omega) small)).mpr occurs

/-! ## Searches -/

/-- The positions of a piece in a string. -/
def positions (whole piece : String) : List Nat := Text.positions piece.toList whole.toList

theorem gives_indexofN (whole : String) (some : piece ≠ "") :
    Gives "indexof_n" [.string whole, .string piece]
      (.array ((positions whole piece).map .ofNat)) :=
  gives_search Declared.indexofN allPositions rfl (by decide) (Registry.check_ok rfl rfl) some

theorem firstPosition_eq (inhabited : piece.toList ≠ []) (whole : String) :
    firstPosition whole.toList piece.toList =
      (positions whole piece).head?.elim (.ofInt (-1)) .ofNat := by
  rw [firstPosition, positions, Text.position?_eq_head? inhabited]
  cases (Text.positions piece.toList whole.toList).head? <;> rfl

theorem gives_indexof (whole : String) (some : piece ≠ "") :
    Gives "indexof" [.string whole, .string piece]
      ((positions whole piece).head?.elim (.ofInt (-1)) .ofNat) := by
  rw [← firstPosition_eq (by simpa using some)]
  exact gives_search Declared.indexof firstPosition rfl (by decide) (Registry.check_ok rfl rfl) some

theorem fails_search_empty (whole : String) {name : String}
    (known : name ∈ ["indexof", "indexof_n"]) :
    Fails name [.string whole, .string ""] .emptySearch := by
  rcases List.mem_pair.mp known with rfl | rfl
  · exact fails_search Declared.indexof firstPosition rfl (by decide) rfl
      (Registry.check_ok rfl rfl)
  · exact fails_search Declared.indexofN allPositions rfl (by decide) rfl
      (Registry.check_ok rfl rfl)

/-- **The positions of a piece answer where a string has it.** A search for all positions of a piece
that is not empty lists, in ascending order and with overlaps, exactly the offsets at which the
portion of the length of the piece is the piece. An offset is any number of natural value, and the
string is one that fits into memory, with fewer than `2 ^ 63` characters.

The first position is the one that a search for a single position gives. That there is any, that
zero is one and that the last possible one is one decides whether the string contains the piece,
starts with it and ends with it. Searches for the empty piece fail. -/
theorem search_positions_exact :
    (∀ whole piece : String, piece ≠ "" → ∃ found : List Nat,
      Gives "indexof_n" [.string whole, .string piece] (.array (found.map .ofNat)) ∧
      found.Pairwise (· < ·) ∧
      Gives "count" [.string whole] (.ofNat whole.length) ∧
      Gives "count" [.string piece] (.ofNat piece.length) ∧
      (whole.length < 2 ^ 63 → ∀ (offset : Number) (position : Nat), offset.Denotes position →
        (position ∈ found ↔
          Gives "substring" [.string whole, .number offset, .ofNat piece.length]
            (.string piece))) ∧
      Gives "indexof" [.string whole, .string piece]
        (found.head?.elim (.ofInt (-1)) .ofNat) ∧
      Gives "contains" [.string whole, .string piece] (.bool (decide (found ≠ []))) ∧
      Gives "startswith" [.string whole, .string piece] (.bool (decide (0 ∈ found))) ∧
      Gives "endswith" [.string whole, .string piece]
        (.bool (decide (piece.length ≤ whole.length ∧ whole.length - piece.length ∈ found)))) ∧
    ∀ (whole : String), ∀ name ∈ ["indexof", "indexof_n"],
      Fails name [.string whole, .string ""] .emptySearch := by
  constructor
  · intro whole piece some
    have inhabited : piece.toList ≠ [] := by simpa using some
    have lists := Text.lists_positions inhabited whole.toList
    refine ⟨positions whole piece, gives_indexofN whole some, lists.ascending,
      gives_count_string whole, gives_count_string piece, ?_, gives_indexof whole some, ?_, ?_, ?_⟩
    · intro small offset position denotes
      rw [gives_substring_iff inhabited small denotes]
      exact Text.mem_positions_iff inhabited
    · exact Text.contains_eq_decide inhabited whole.toList ▸ gives_contains whole piece
    · exact Text.startsWith_eq_decide inhabited whole.toList ▸ gives_startswith whole piece
    · have answer := Text.endsWith_eq_decide inhabited whole.toList
      rw [String.length_toList, String.length_toList] at answer
      exact answer ▸ gives_endswith whole piece
  · exact fun whole name known => fails_search_empty whole known

/-- The occurrence in the middle overlaps those around it, and all positions count the characters of
two bytes once. -/
theorem search_positions_exact_overlapping :
    ("éaé" ≠ "" ∧ "éaéaéaé".length < 2 ^ 63 ∧ (Number.ofInt 2).Denotes (2 : Nat) ∧
      ∃ found : List Nat,
        Gives "indexof_n" [.string "éaéaéaé", .string "éaé"] (.array (found.map .ofNat)) ∧
        found.Pairwise (· < ·) ∧ 2 ∈ found ∧
        Gives "contains" [.string "éaéaéaé", .string "éaé"] (.bool (decide (found ≠ [])))) ∧
    "indexof_n" ∈ ["indexof", "indexof_n"] ∧
      Fails "indexof_n" [.string "éa", .string ""] .emptySearch := by
  obtain ⟨searches, fails⟩ := search_positions_exact
  have small : "éaéaéaé".length < 2 ^ 63 := by decide
  have two : (Number.ofInt 2).Denotes (2 : Nat) := Number.denotes_ofInt 2
  refine ⟨⟨by decide, small, two, ?_⟩, by decide, fails "éa" "indexof_n" (by decide)⟩
  obtain ⟨found, lists, ascending, _, _, exact, _, contains, _⟩ :=
    searches "éaéaéaé" "éaé" (by decide)
  have portion := @gives_substring "éaéaéaé" (Number.ofInt 2) (Number.ofNat 3) 2 3
    (Argument.isWord_ofInt_iff.mpr (by decide)) (Argument.isWord_ofInt_iff.mpr (by decide))
  exact ⟨found, lists, ascending, (exact small _ _ two).mpr portion, contains⟩

end Rego.Builtin.Strings
