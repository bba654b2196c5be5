import Rego.Proofs.Text.Parts
import Rego.Proofs.Text.Search

/-!
# Splitting, counting and replacing

Going through a text from the left and cutting it at every occurrence of a piece, each time behind
the one before, takes the text apart in one way (`Parted`). Splitting, counting and replacing are
three separate passes over a text, and the relation ties them together: splitting lists the parts
(`parted_iff`), there is one more part than are counted (`Parted.length_eq`), and replacing joins
the parts with the replacement (`Parted.replace_eq`). The parts joined with the piece are the text
(`Parted.join_eq`), and the piece occurs in none of them (`Parted.not_infix`).

The empty piece is treated apart from all others by each of the three.
-/

namespace Rego.Text

set_option autoImplicit false

variable {piece text before after : List Char} {pieces : List (List Char)}

/-! ## The equations of the passes -/

theorem occurrences_of_cut?_eq_none (inhabited : piece ≠ []) (whole : cut? piece text = none) :
    occurrences piece text = 0 := by
  rw [occurrences, dif_neg (by simpa using inhabited)]
  split
  · rfl
  · next found => rw [whole] at found; cases found

theorem occurrences_of_cut?_eq_some (inhabited : piece ≠ [])
    (found : cut? piece text = some (before, after)) :
    occurrences piece text = occurrences piece after + 1 := by
  rw [occurrences, dif_neg (by simpa using inhabited)]
  split
  · next whole => rw [found] at whole; cases whole
  · next other => rw [found] at other; cases other; rfl

theorem replace_of_cut?_eq_none (replacement : List Char) (inhabited : piece ≠ [])
    (whole : cut? piece text = none) : replace piece replacement text = text := by
  rw [replace, dif_neg (by simpa using inhabited)]
  split
  · rfl
  · next found => rw [whole] at found; cases found

theorem replace_of_cut?_eq_some (replacement : List Char) (inhabited : piece ≠ [])
    (found : cut? piece text = some (before, after)) :
    replace piece replacement text = before ++ replacement ++ replace piece replacement after := by
  rw [replace, dif_neg (by simpa using inhabited)]
  split
  · next whole => rw [found] at whole; cases whole
  · next other => rw [found] at other; cases other; rfl

theorem join_cons_of_ne_nil (separator text : List Char) (further : pieces ≠ []) :
    join separator (text :: pieces) = text ++ separator ++ join separator pieces := by
  cases pieces with
  | nil => exact absurd rfl further
  | cons next rest => rfl

/-! ## The parts of a text -/

/-- The parts that a text falls into when it is cut at occurrences of a piece from the left, each
cut being the leftmost one behind the cut before. -/
inductive Parted (piece : List Char) : List Char → List (List Char) → Prop where
  | whole {text : List Char} (absent : ¬piece <:+: text) : Parted piece text [text]
  | cut {text before after : List Char} {pieces : List (List Char)}
      (leftmost : Leftmost piece text before after) (later : Parted piece after pieces) :
      Parted piece text (before :: pieces)

namespace Parted

theorem ne_nil (parted : Parted piece text pieces) : pieces ≠ [] := by
  cases parted with
  | whole absent => exact List.cons_ne_nil _ _
  | cut leftmost later => exact List.cons_ne_nil _ _

/-- The parts of a text are the ones that splitting lists. -/
theorem eq_parts (inhabited : piece ≠ []) (parted : Parted piece text pieces) :
    pieces = parts piece text := by
  induction parted with
  | whole absent => exact (parts_of_cut?_eq_none (cut?_eq_none_iff.mpr absent)).symm
  | cut leftmost later ih =>
      rw [parts_of_cut?_eq_some inhabited (cut?_eq_some_iff.mpr leftmost), ih]

/-- **Nothing is lost:** the parts with the piece between them are the text. -/
theorem join_eq (parted : Parted piece text pieces) : join piece pieces = text := by
  induction parted with
  | whole absent => rfl
  | cut leftmost later ih => rw [join_cons_of_ne_nil _ _ later.ne_nil, ih, leftmost.whole]

/-- An occurrence inside the part before a cut would be further to the left than the cut. -/
theorem not_infix (inhabited : piece ≠ []) (parted : Parted piece text pieces) :
    ∀ part ∈ pieces, ¬piece <:+: part := by
  induction parted with
  | whole absent =>
      intro part member
      rwa [List.mem_singleton.mp member]
  | @cut text before after pieces leftmost later ih =>
      refine List.forall_mem_cons.mpr ⟨?_, ih⟩
      rintro ⟨front, back, rfl⟩
      have inside : OccursAt piece text front.length :=
        ⟨front, back ++ piece ++ after, rfl, by rw [leftmost.whole]; simp⟩
      refine leftmost.first front.length ?_ inside
      have positive := List.length_pos_of_ne_nil inhabited
      simp only [List.length_append]
      omega

/-- **There is one more part than occurrences are counted.** -/
theorem length_eq (inhabited : piece ≠ []) (parted : Parted piece text pieces) :
    pieces.length = occurrences piece text + 1 := by
  induction parted with
  | whole absent =>
      rw [occurrences_of_cut?_eq_none inhabited (cut?_eq_none_iff.mpr absent)]
      rfl
  | cut leftmost later ih =>
      rw [occurrences_of_cut?_eq_some inhabited (cut?_eq_some_iff.mpr leftmost),
        List.length_cons, ih]

/-- **Replacing puts the replacement between the parts.** -/
theorem replace_eq (inhabited : piece ≠ []) (replacement : List Char)
    (parted : Parted piece text pieces) :
    replace piece replacement text = join replacement pieces := by
  induction parted with
  | whole absent =>
      exact replace_of_cut?_eq_none replacement inhabited (cut?_eq_none_iff.mpr absent)
  | cut leftmost later ih =>
      rw [replace_of_cut?_eq_some replacement inhabited (cut?_eq_some_iff.mpr leftmost), ih,
        join_cons_of_ne_nil _ _ later.ne_nil]

end Parted

/-- Every text falls into parts. -/
theorem parted_parts (inhabited : piece ≠ []) (text : List Char) :
    Parted piece text (parts piece text) := by
  induction count : text.length using Nat.strong_induction_on generalizing text with
  | h length ih =>
      cases found : cut? piece text with
      | none =>
          rw [parts_of_cut?_eq_none found]
          exact .whole (cut?_eq_none_iff.mp found)
      | some cut =>
          obtain ⟨before, after⟩ := cut
          have shorter := length_lt_of_cut? (by simpa using inhabited) found
          rw [parts_of_cut?_eq_some inhabited found]
          exact .cut (leftmost_of_cut? found) (ih after.length (count ▸ shorter) after rfl)

/-- **Splitting lists the parts of a text.** -/
theorem parted_iff (inhabited : piece ≠ []) :
    Parted piece text pieces ↔ pieces = parts piece text := by
  refine ⟨Parted.eq_parts inhabited, ?_⟩
  rintro rfl
  exact parted_parts inhabited text

/-! ## The empty piece -/

/-- Single characters with nothing between them are the text. -/
theorem join_nil_singletons (text : List Char) :
    join [] (text.map fun character => [character]) = text := by
  induction text with
  | nil => rfl
  | cons character rest ih =>
      cases rest with
      | nil => rfl
      | cons next later =>
          rw [List.map_cons, join_cons_of_ne_nil _ _ (by simp), ih]
          rfl

theorem length_split_nil (text : List Char) : (split [] text).length = text.length :=
  List.length_map _

/-- **What splitting gives joins to the text.** -/
theorem join_split (delimiter text : List Char) : join delimiter (split delimiter text) = text := by
  cases delimiter with
  | nil => exact join_nil_singletons text
  | cons first rest => exact (parted_parts (List.cons_ne_nil first rest) text).join_eq

theorem append_flatMap_cons (replacement text : List Char) :
    replacement ++ text.flatMap (fun character => character :: replacement) =
      text.flatMap (fun character => replacement ++ [character]) ++ replacement := by
  induction text with
  | nil => simp
  | cons character rest ih =>
      rw [List.flatMap_cons, List.flatMap_cons, List.append_assoc, ← ih]
      simp

/-- The empty piece is replaced in front of every character and at the end. -/
theorem replace_nil (replacement text : List Char) :
    replace [] replacement text =
      text.flatMap (fun character => replacement ++ [character]) ++ replacement := by
  rw [replace, dif_pos List.isEmpty_nil, append_flatMap_cons]

theorem occurrences_nil (text : List Char) : occurrences [] text = text.length + 1 := by
  rw [occurrences, dif_pos List.isEmpty_nil]

end Rego.Text
