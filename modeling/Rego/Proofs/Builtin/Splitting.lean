import Rego.Proofs.Builtin.Strings
import Rego.Proofs.Text.Splitting

/-!
# Calls that split, join, count and replace

Splitting gives the parts of a string (`gives_split`). What the parts have to do with counting and
replacing is a matter of texts; here it is said of the calls, which only turn strings into texts and
back (`splitting_shares_occurrences`).
-/

namespace Rego.Builtin.Strings

set_option autoImplicit false

open Registry (Gives Fails)

/-- The elements that splitting a string gives. -/
def elements (whole delimiter : String) : List String :=
  (Text.split delimiter.toList whole.toList).map String.ofList

theorem map_toList_elements (whole delimiter : String) :
    (elements whole delimiter).map String.toList = Text.split delimiter.toList whole.toList := by
  have same : String.toList ∘ String.ofList = id := funext fun _ => String.toList_ofList
  rw [elements, List.map_map, same, List.map_id]

theorem gives_split (whole delimiter : String) :
    Gives "split" [.string whole, .string delimiter]
      (.array ((elements whole delimiter).map .string)) := by
  have parts : split whole.toList delimiter.toList =
      .array ((elements whole delimiter).map .string) := by
    rw [split, elements, List.map_map]
    rfl
  rw [← parts]
  exact gives_onTexts Declared.split split rfl (by decide) (Registry.check_ok rfl rfl)

/-- The elements are joined as the parts that they are. -/
theorem gives_concat_elements (whole delimiter separator : String) :
    Gives "concat" [.string separator, .array ((elements whole delimiter).map .string)]
      (text (Text.join separator.toList (Text.split delimiter.toList whole.toList))) := by
  rw [← map_toList_elements]
  exact gives_concat separator (elements whole delimiter)

theorem gives_count_elements (whole delimiter : String) :
    Gives "count" [.array ((elements whole delimiter).map .string)]
      (.ofNat (Text.split delimiter.toList whole.toList).length) := by
  have count := gives_count_array ((elements whole delimiter).map .string)
  rwa [List.length_map, elements, List.length_map] at count

/-- The elements around a delimiter that is not empty are the parts of the string. -/
theorem parted_elements {delimiter : String} (inhabited : delimiter.toList ≠ []) (whole : String) :
    Text.Parted delimiter.toList whole.toList ((elements whole delimiter).map String.toList) := by
  rw [map_toList_elements, Text.split, if_neg (by simpa using inhabited)]
  exact Text.parted_parts inhabited whole.toList

/-- **Splitting, joining, counting and replacing go by the same occurrences.** A string is always
the elements of its split with the delimiter between them.

Around a delimiter that is not empty the elements are the parts between the occurrences that a
search from the left meets, each behind the one before, and no other strings are. None of them
contains the delimiter, there is one more of them than occurrences are counted, and replacing the
delimiter is joining the elements with the replacement.

Around the empty delimiter there are as many elements as characters, and one occurrence more, which
replacing puts the replacement in place of: in front of every character and at the end. -/
theorem splitting_shares_occurrences (whole delimiter replacement : String) :
    ∃ pieces : List String,
      Gives "split" [.string whole, .string delimiter] (.array (pieces.map .string)) ∧
      Gives "concat" [.string delimiter, .array (pieces.map .string)] (.string whole) ∧
      (delimiter ≠ "" →
        (∀ others : List String,
          Text.Parted delimiter.toList whole.toList (others.map String.toList) ↔
            others = pieces) ∧
        (∀ piece ∈ pieces, ¬delimiter.toList <:+: piece.toList ∧
          Gives "contains" [.string piece, .string delimiter] (.bool false)) ∧
        (∃ count : Nat, Gives "strings.count" [.string whole, .string delimiter] (.ofNat count) ∧
          Gives "count" [.array (pieces.map .string)] (.ofNat (count + 1))) ∧
        ∃ replaced : String,
          Gives "replace" [.string whole, .string delimiter, .string replacement]
            (.string replaced) ∧
          Gives "concat" [.string replacement, .array (pieces.map .string)] (.string replaced)) ∧
      (delimiter = "" →
        (∃ count : Nat, Gives "count" [.string whole] (.ofNat count) ∧
          Gives "count" [.array (pieces.map .string)] (.ofNat count) ∧
          Gives "strings.count" [.string whole, .string ""] (.ofNat (count + 1))) ∧
        Gives "replace" [.string whole, .string "", .string replacement]
          (.string (String.ofList
            (whole.toList.flatMap (fun character => replacement.toList ++ [character]) ++
              replacement.toList)))) := by
  refine ⟨elements whole delimiter, gives_split whole delimiter, ?_, ?_, ?_⟩
  · have joined : Text.join delimiter.toList (Text.split delimiter.toList whole.toList) =
        whole.toList := Text.join_split delimiter.toList whole.toList
    have concat := gives_concat_elements whole delimiter delimiter
    rwa [joined, text, String.ofList_toList] at concat
  · intro some
    have inhabited : delimiter.toList ≠ [] := by simpa using some
    have parted := parted_elements inhabited whole
    refine ⟨?_, ?_, ?_, ?_⟩
    · intro others
      rw [Text.parted_iff inhabited, ← parted.eq_parts inhabited]
      exact (List.map_injective_iff.mpr fun _ _ => String.toList_inj.mp).eq_iff
    · intro piece member
      have absent := parted.not_infix inhabited _ (List.mem_map_of_mem member)
      have answer := Bool.eq_false_iff.mpr (mt Text.contains_iff.mp absent)
      exact ⟨absent, answer ▸ gives_contains piece delimiter⟩
    · refine ⟨_, gives_stringsCount whole delimiter, ?_⟩
      rw [← parted.length_eq inhabited, map_toList_elements]
      exact gives_count_elements whole delimiter
    · refine ⟨_, gives_replace whole delimiter replacement, ?_⟩
      rw [parted.replace_eq inhabited, map_toList_elements]
      exact gives_concat_elements whole delimiter replacement
  · rintro rfl
    refine ⟨⟨whole.length, gives_count_string whole, ?_, ?_⟩, ?_⟩
    · have count := gives_count_elements whole ""
      rwa [String.toList_empty, Text.length_split_nil, String.length_toList] at count
    · have count := gives_stringsCount whole ""
      rwa [String.toList_empty, Text.occurrences_nil, String.length_toList] at count
    · have replaced := gives_replace whole "" replacement
      rwa [String.toList_empty, Text.replace_nil] at replaced

/-- A delimiter that overlaps itself in the string, with characters of several bytes: the occurrence
in the middle is passed over. The empty delimiter stands around every character. -/
theorem splitting_shares_occurrences_overlapping :
    ("éaé" ≠ "" ∧
      Gives "split" [.string "éaéaéaé", .string "éaé"]
        (.array [.string "", .string "a", .string ""]) ∧
      Gives "concat" [.string "éaé", .array [.string "", .string "a", .string ""]]
        (.string "éaéaéaé") ∧
      (∃ count : Nat, Gives "strings.count" [.string "éaéaéaé", .string "éaé"] (.ofNat count) ∧
        Gives "count" [.array [.string "", .string "a", .string ""]] (.ofNat (count + 1))) ∧
      ∃ replaced : String,
        Gives "replace" [.string "éaéaéaé", .string "éaé", .string "-"] (.string replaced) ∧
        Gives "concat" [.string "-", .array [.string "", .string "a", .string ""]]
          (.string replaced)) ∧
    Gives "replace" [.string "éa", .string "", .string "-"] (.string "-é-a-") := by
  constructor
  · obtain ⟨pieces, splits, joins, around, _⟩ := splitting_shares_occurrences "éaéaéaé" "éaé" "-"
    obtain ⟨parts, _, counts, replaces⟩ := around (by decide)
    have first : Text.Leftmost "éaé".toList "éaéaéaé".toList [] "aéaé".toList :=
      Text.leftmost_of_cut? (by decide)
    have second : Text.Leftmost "éaé".toList "aéaé".toList ['a'] [] :=
      Text.leftmost_of_cut? (by decide)
    have parted : Text.Parted "éaé".toList "éaéaéaé".toList (["", "a", ""].map String.toList) :=
      .cut first (.cut second (.whole (by decide)))
    obtain rfl := (parts ["", "a", ""]).mp parted
    exact ⟨by decide, splits, joins, counts, replaces⟩
  · obtain ⟨_, _, _, _, around⟩ := splitting_shares_occurrences "éa" "" "-"
    exact (around rfl).2

end Rego.Builtin.Strings
