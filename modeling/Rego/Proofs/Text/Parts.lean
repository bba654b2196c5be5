import Rego.Text.Search

/-!
# The parts between marks

Parting a text at a mark, a piece of one character, goes through the text character by character: a
mark ends a part, and any other character belongs to the part that follows it. So the parts on both
sides of a mark are found independently (`parts_mark_append`), and a text without the mark is its
only part (`parts_mark_of_not_mem`).
-/

namespace Rego.Text

set_option autoImplicit false

theorem parts_of_cut?_eq_none {piece text : List Char} (whole : cut? piece text = none) :
    parts piece text = [text] := by
  rw [parts]
  split
  · rfl
  · split
    · rfl
    · next found => rw [whole] at found; cases found

theorem parts_of_cut?_eq_some {piece text before after : List Char} (inhabited : piece ≠ [])
    (found : cut? piece text = some (before, after)) :
    parts piece text = before :: parts piece after := by
  rw [parts, if_neg (by simpa using inhabited)]
  split
  · next whole => rw [found] at whole; cases whole
  · next other => rw [found] at other; cases other; rfl

theorem parts_ne_nil (piece text : List Char) : parts piece text ≠ [] := by
  rw [parts]
  split
  · exact List.cons_ne_nil _ _
  · split <;> exact List.cons_ne_nil _ _

section Mark

variable (mark : Char)

theorem parts_mark_nil : parts [mark] [] = [[]] :=
  parts_of_cut?_eq_none rfl

theorem parts_mark_cons_self (text : List Char) :
    parts [mark] (mark :: text) = [] :: parts [mark] text :=
  parts_of_cut?_eq_some (List.cons_ne_nil _ _) (by simp [cut?, afterPrefix?])

theorem parts_mark_cons_of_ne {character : Char} (different : character ≠ mark)
    (text : List Char) :
    parts [mark] (character :: text) = (parts [mark] text).modifyHead (character :: ·) := by
  have step : cut? [mark] (character :: text) =
      (cut? [mark] text).map fun pair => (character :: pair.1, pair.2) := by
    simp [cut?, afterPrefix?, Ne.symm different]
  cases found : cut? [mark] text with
  | none =>
      rw [found] at step
      rw [parts_of_cut?_eq_none found, parts_of_cut?_eq_none step, List.modifyHead_cons]
  | some pair =>
      rw [found] at step
      have inhabited := List.cons_ne_nil mark []
      rw [parts_of_cut?_eq_some inhabited found, parts_of_cut?_eq_some inhabited step,
        List.modifyHead_cons]

/-- The parts on either side of a mark are found independently. -/
theorem parts_mark_append (left right : List Char) :
    parts [mark] (left ++ mark :: right) = parts [mark] left ++ parts [mark] right := by
  induction left with
  | nil => rw [List.nil_append, parts_mark_cons_self, parts_mark_nil, List.singleton_append]
  | cons character left ih =>
      rw [List.cons_append]
      by_cases same : character = mark
      · rw [same, parts_mark_cons_self, parts_mark_cons_self, ih, List.cons_append]
      · rw [parts_mark_cons_of_ne mark same, parts_mark_cons_of_ne mark same, ih]
        obtain ⟨first, rest, known⟩ := List.exists_cons_of_ne_nil (parts_ne_nil [mark] left)
        rw [known, List.cons_append, List.modifyHead_cons, List.modifyHead_cons, List.cons_append]

/-- A text without the mark is its only part. -/
theorem parts_mark_of_not_mem {text : List Char} (absent : mark ∉ text) :
    parts [mark] text = [text] := by
  induction text with
  | nil => exact parts_mark_nil mark
  | cons character text ih =>
      have different := List.ne_of_not_mem_cons absent
      rw [parts_mark_cons_of_ne mark (Ne.symm different), ih (List.not_mem_of_not_mem_cons absent),
        List.modifyHead_cons]

end Mark

end Rego.Text
